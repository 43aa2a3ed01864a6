import Gadget.Cli.Schema
import Mathlib.Data.List.TakeWhile

/-!
# Well-formed parameters

The parameters of a contract's ABI: elementary types and tuples, with any number of array
suffixes. `toParam` writes one as JSON does, and `solType` is the type that it stands for.
-/

namespace Gadget.Cli

open Rust List SchemaParam
def sizeText (n : ℕ) : List Char := Nat.toDigits 10 n

def widthText : Option (Fin 32) → List Char
  | none => []
  | some w => sizeText (8 * (w + 1))

def widthBits : Option (Fin 32) → ℕ
  | none => 256
  | some w => 8 * (w + 1)

inductive Elementary where
  | bool
  | address
  | string
  | bytes
  | function
  | uint (width : Option (Fin 32))
  | int (width : Option (Fin 32))
  | fixedBytes (last : Fin 32)

def Elementary.stem : Elementary → String
  | .bool => "bool"
  | .address => "address"
  | .string => "string"
  | .bytes => "bytes"
  | .function => "function"
  | .uint _ => "uint"
  | .int _ => "int"
  | .fixedBytes _ => "bytes"

def Elementary.size : Elementary → List Char
  | .uint w => widthText w
  | .int w => widthText w
  | .fixedBytes n => sizeText (n + 1)
  | _ => []

def Elementary.text (e : Elementary) : List Char := e.stem.toList ++ e.size

def Elementary.solType : Elementary → DynSolType
  | .bool => .bool
  | .address => .address
  | .string => .string
  | .bytes => .bytes
  | .function => .function
  | .uint w => .uint (widthBits w)
  | .int w => .int (widthBits w)
  | .fixedBytes n => .fixedBytes (n + 1)

inductive Suffix where
  | dynamic
  | fixed (size : ℕ) (pos : 0 < size)

def Suffix.size : Suffix → List Char
  | .dynamic => []
  | .fixed n _ => sizeText n

def Suffix.text (s : Suffix) : List Char := '[' :: (s.size ++ [']'])

def Suffix.wrap : Suffix → DynSolType → DynSolType
  | .dynamic, ty => .array ty
  | .fixed n _, ty => .fixedArray ty n

def typeText (root : List Char) : List Suffix → List Char
  | [] => root
  | s :: ss => typeText root ss ++ s.text

def wrapAll : List Suffix → DynSolType → DynSolType
  | [], ty => ty
  | s :: ss, ty => s.wrap (wrapAll ss ty)

inductive AbiParam where
  | elementary (name : List Char) (ty : Elementary) (suffixes : List Suffix)
      (internalType : Option InternalType)
  | tuple (name : List Char) (first : AbiParam) (others : List AbiParam) (suffixes : List Suffix)
      (internalType : Option InternalType)

namespace AbiParam

def name : AbiParam → List Char
  | elementary name .. => name
  | tuple name .. => name

def tupleType (internalType : Option InternalType) (propNames : List (List Char))
    (types : List DynSolType) : DynSolType :=
  match internalType with
  | some (.struct name) => .customStruct (name.takeWhile (· ≠ '[')) propNames types
  | _ => .tuple types

mutual

def toParam : AbiParam → Param
  | elementary name ty suffixes internalType => ⟨name, typeText ty.text suffixes, [], internalType⟩
  | tuple name first others suffixes internalType =>
    ⟨name, typeText "tuple".toList suffixes, first.toParam :: toParams others, internalType⟩

def toParams : List AbiParam → List Param
  | [] => []
  | p :: ps => p.toParam :: toParams ps

end

mutual

def solType : AbiParam → DynSolType
  | elementary _ ty suffixes _ => wrapAll suffixes ty.solType
  | tuple _ first others suffixes internalType =>
    wrapAll suffixes (tupleType internalType ((first :: others).map name)
      (first.solType :: solTypes others))

def solTypes : List AbiParam → List DynSolType
  | [] => []
  | p :: ps => p.solType :: solTypes ps

end

mutual

def schema : AbiParam → SchemaParam
  | elementary name ty suffixes internalType =>
    ⟨nameOption (trim name), (elementary name ty suffixes internalType).solType, []⟩
  | tuple name first others suffixes internalType =>
    ⟨nameOption (trim name), (tuple name first others suffixes internalType).solType,
      first.schema :: schemas others⟩

def schemas : List AbiParam → List SchemaParam
  | [] => []
  | p :: ps => p.schema :: schemas ps

end

@[elab_as_elim]
lemma induct {motive : AbiParam → Prop} (elementary : ∀ name ty sfx ity,
      motive (.elementary name ty sfx ity))
    (tuple : ∀ name first others sfx ity, (∀ p ∈ first :: others, motive p) →
      motive (.tuple name first others sfx ity)) (p : AbiParam) : motive p :=
  @AbiParam.rec motive (fun ps => ∀ p ∈ ps, motive p) elementary
    (fun name first others sfx ity hf ho =>
      tuple name first others sfx ity (forall_mem_cons.mpr ⟨hf, ho⟩))
    nofun (fun _ _ hp hps => forall_mem_cons.mpr ⟨hp, hps⟩) p

variable (ps : List AbiParam)

@[simp] lemma toParams_eq_map : toParams ps = ps.map toParam := by
  induction ps with
  | nil => rfl
  | cons p ps ih => rw [toParams, ih, map_cons]

@[simp] lemma solTypes_eq_map : solTypes ps = ps.map solType := by
  induction ps with
  | nil => rfl
  | cons p ps ih => rw [solTypes, ih, map_cons]

@[simp] lemma schemas_eq_map : schemas ps = ps.map schema := by
  induction ps with
  | nil => rfl
  | cons p ps ih => rw [schemas, ih, map_cons]

lemma name_toParam (p : AbiParam) : p.toParam.name = p.name := by
  cases p <;> rfl

lemma ty_schema (p : AbiParam) : p.schema.ty = p.solType := by
  cases p <;> rfl

end AbiParam

lemma sizeText_ne_nil (n : ℕ) : sizeText n ≠ [] := Nat.toDigits_ne_nil

lemma sizeText_injective {m n : ℕ} (h : sizeText m = sizeText n) : m = n := by
  have hm := parseUnsigned_toDigits (max m n) m
  have hn := parseUnsigned_toDigits (max m n) n
  rw [sizeText, sizeText] at h
  rw [if_pos (le_max_left m n), h] at hm
  rw [if_pos (le_max_right m n), hm] at hn
  exact Option.some.inj hn

lemma widthBits_of_text {w w' : Option (Fin 32)} (h : widthText w = widthText w') :
    widthBits w = widthBits w' := by
  cases w <;> cases w' <;> simp only [widthText] at h
  case none.none => rfl
  case none.some => exact absurd h.symm (sizeText_ne_nil _)
  case some.none => exact absurd h (sizeText_ne_nil _)
  case some.some => exact sizeText_injective h

lemma Elementary.solType_of_text {e e' : Elementary} (h : e.text = e'.text) :
    e.solType = e'.solType := by
  cases e <;> cases e' <;> simp [Elementary.text, Elementary.stem, Elementary.size] at h ⊢
  case bytes.fixedBytes => exact absurd h (sizeText_ne_nil _)
  case fixedBytes.bytes => exact absurd h (sizeText_ne_nil _)
  case uint.uint => rw [solType, solType, widthBits_of_text h]
  case int.int => rw [solType, solType, widthBits_of_text h]
  case fixedBytes.fixedBytes => rw [solType, solType, sizeText_injective h]

lemma digit_of_mem_sizeText {n : ℕ} {c : Char} (h : c ∈ sizeText n) :
    48 ≤ c.toNat ∧ c.toNat ≤ 57 := by
  have hd := Nat.isDigit_of_mem_toDigits (by decide) (by decide) h
  rw [Char.isDigit, Bool.and_eq_true, decide_eq_true_eq, decide_eq_true_eq] at hd
  exact ⟨UInt32.le_iff_toNat_le.mp hd.1, UInt32.le_iff_toNat_le.mp hd.2⟩

def IsRoot (text : List Char) : Prop :=
  text ≠ [] ∧ ∀ c ∈ text, 48 ≤ c.toNat ∧ c.toNat ≤ 57 ∨ 97 ≤ c.toNat ∧ c.toNat ≤ 122

lemma isRoot_tuple : IsRoot "tuple".toList := by
  refine ⟨by decide, fun c hc => ?_⟩
  simp at hc
  obtain rfl | rfl | rfl | rfl | rfl := hc <;> decide

lemma Elementary.isRoot_text (e : Elementary) : IsRoot e.text := by
  have hs : e.stem.toList ≠ [] ∧
      e.stem.toList.all (fun c => decide (97 ≤ c.toNat ∧ c.toNat ≤ 122)) = true := by
    cases e <;> rw [Elementary.stem] <;> decide
  have hsi : ∀ c ∈ e.size, 48 ≤ c.toNat ∧ c.toNat ≤ 57 := by
    intro c hc
    have hwi : ∀ {w : Option (Fin 32)}, c ∈ widthText w → 48 ≤ c.toNat ∧ c.toNat ≤ 57 := by
      intro w hw
      rcases w with _ | w
      · cases hw
      exact digit_of_mem_sizeText hw
    cases e with
    | uint | int => exact hwi hc
    | fixedBytes n => exact digit_of_mem_sizeText hc
    | _ => cases hc
  refine ⟨append_ne_nil_of_left_ne_nil hs.1 _, fun c hc => ?_⟩
  rcases mem_append.mp hc with hc | hc
  · exact .inr (of_decide_eq_true (all_eq_true.mp hs.2 c hc))
  · exact .inl (hsi c hc)

lemma IsRoot.getLast? {root : List Char} (h : IsRoot root) : root.getLast? ≠ some ']' := by
  intro hl
  have hc := h.2 _ (mem_of_getLast? hl)
  exact absurd hc (by decide)

lemma Suffix.text_getLast? (text : List Char) (s : Suffix) :
    (text ++ s.text).getLast? = some ']' := by
  rw [Suffix.text, ← cons_append, ← append_assoc, getLast?_concat]

lemma Suffix.bracket_not_mem (s : Suffix) : '[' ∉ s.size ++ [']'] := by
  intro hmem
  rcases mem_append.mp hmem with hmem | hmem
  · rcases s with _ | ⟨n, _⟩
    · cases hmem
    exact absurd (digit_of_mem_sizeText hmem) (by decide)
  · exact absurd hmem (by decide)

lemma Suffix.size_injective {s t : Suffix} (h : s.size = t.size) : s = t := by
  cases s <;> cases t <;> simp only [Suffix.size] at h
  case dynamic.dynamic => rfl
  case dynamic.fixed => exact absurd h.symm (sizeText_ne_nil _)
  case fixed.dynamic => exact absurd h (sizeText_ne_nil _)
  case fixed.fixed =>
    cases sizeText_injective h
    rfl

lemma typeText_injective {root root' : List Char} (hro : IsRoot root) (hr' : IsRoot root')
    {ss ss' : List Suffix} (h : typeText root ss = typeText root' ss') :
    root = root' ∧ ss = ss' := by
  induction ss generalizing ss' with
  | nil =>
    rcases ss' with _ | ⟨s', ss'⟩
    · exact ⟨h, rfl⟩
    rw [typeText, typeText] at h
    exact absurd (h ▸ s'.text_getLast? _) hro.getLast?
  | cons s ss ih =>
    rcases ss' with _ | ⟨s', ss'⟩
    · rw [typeText, typeText] at h
      exact absurd (h ▸ s.text_getLast? _) hr'.getLast?
    have hs := congrArg (rsplit '[') h
    simp only [typeText, Suffix.text] at hs
    rw [rsplit_append s.bracket_not_mem, rsplit_append s'.bracket_not_mem] at hs
    obtain ⟨hb, hsi⟩ := Prod.mk.inj (Option.some.inj hs)
    obtain ⟨hr, hss⟩ := ih hb
    exact ⟨hr, by rw [Suffix.size_injective (append_cancel_right hsi), hss]⟩

lemma map_eq_of_map_eq {α β γ : Type} {f : α → β} {g : α → γ} {xs ys : List α}
    (hdet : ∀ x ∈ xs, ∀ {y}, f x = f y → g x = g y) (h : xs.map f = ys.map f) :
    xs.map g = ys.map g := by
  induction xs generalizing ys with
  | nil =>
    obtain rfl := map_eq_nil_iff.mp h.symm
    rfl
  | cons x xs ih =>
    obtain ⟨y, ys, rfl, hy, hys⟩ := map_eq_cons_iff.mp h.symm
    rw [forall_mem_cons] at hdet
    rw [map_cons, map_cons, hdet.1 hy.symm, ih hdet.2 hys.symm]

namespace AbiParam

lemma solType_of_toParam {p q : AbiParam} (h : p.toParam = q.toParam) : p.solType = q.solType := by
  induction p using AbiParam.induct generalizing q with
  | elementary name ty sfx ity =>
    cases q <;> simp only [toParam, Param.mk.injEq] at h
    case elementary name' ty' suffixes' internalType' =>
      obtain ⟨hte, rfl⟩ := typeText_injective ty.isRoot_text ty'.isRoot_text h.2.1
      rw [solType, solType, Elementary.solType_of_text hte]
    case tuple => cases h.2.2.1
  | tuple name first others sfx ity ih =>
    cases q <;> simp only [toParam, Param.mk.injEq] at h
    case elementary => cases h.2.2.1
    case tuple name' first' others' suffixes' internalType' =>
      obtain ⟨-, hty, hc, rfl⟩ := h
      obtain ⟨-, rfl⟩ := typeText_injective isRoot_tuple isRoot_tuple hty
      rw [toParams_eq_map, toParams_eq_map, ← map_cons, ← map_cons] at hc
      have ht := map_eq_of_map_eq ih hc
      have hn : (first :: others).map AbiParam.name = (first' :: others').map AbiParam.name :=
        map_eq_of_map_eq (fun x _ y hxy => by rw [← name_toParam x, hxy, name_toParam]) hc
      rw [solType, solType, solTypes_eq_map, solTypes_eq_map, ← map_cons, ← map_cons, ht, hn]

end AbiParam

structure Resolver where
  resolve : Param → Except String DynSolType
  resolve_toParam : ∀ p : AbiParam, resolve p.toParam = .ok p.solType

open Classical in
noncomputable def Resolver.denoting : Resolver where
  resolve q :=
    if h : ∃ p : AbiParam, p.toParam = q then .ok h.choose.solType
    else .error "unknown type"
  resolve_toParam p := by
    have h : ∃ p' : AbiParam, p'.toParam = p.toParam := ⟨p, rfl⟩
    rw [dif_pos h, AbiParam.solType_of_toParam h.choose_spec]

namespace AbiParam

lemma fromParams_of_fromParam {resolve : Param → Except String DynSolType} {ps : List AbiParam}
    (h : ∀ p ∈ ps, fromParam resolve p.toParam = .ok p.schema) :
    fromParams resolve (ps.map toParam) = .ok (ps.map schema) := by
  induction ps with
  | nil => rfl
  | cons p ps ih =>
    rw [forall_mem_cons] at h
    rw [map_cons, fromParams, h.1, ok_bind, ih h.2, ok_bind, map_cons]

lemma fromParam_toParam (R : Resolver) (p : AbiParam) :
    fromParam R.resolve p.toParam = .ok p.schema := by
  have hr := R.resolve_toParam p
  induction p using AbiParam.induct with
  | elementary name ty sfx ity =>
    rw [toParam] at *
    rw [fromParam, hr]
    rfl
  | tuple name first others sfx ity ih =>
    have hc := fromParams_of_fromParam fun p hp => ih p hp (R.resolve_toParam p)
    rw [toParam] at *
    rw [fromParam, hr, toParams_eq_map, ← map_cons, hc]
    rw [schema, schemas_eq_map]
    rfl

lemma fromParams_toParam (R : Resolver) (ps : List AbiParam) :
    fromParams R.resolve (ps.map toParam) = .ok (ps.map schema) :=
  fromParams_of_fromParam fun p _ => fromParam_toParam R p

end AbiParam

/-! ## Reading back what was written

Encoder and decoder agree on elementary types and on tuples of them. They do not agree on arrays:
the encoder writes the element type of an array as a child, which is then read as a component,
and for an array of tuples it writes the components of the tuple, of which the decoder takes the
first one for the element. Names are trimmed by `from_param` but not by the encoder, their lengths
are written in 28 bits, and a tuple that stands for a struct is read as a tuple. -/

open Nat AbiParam Except
lemma trim_eq_self {text : List Char} (h : ∀ c ∈ text, isWhitespace c = false) :
    trim text = text := by
  have hd : ∀ {text : List Char}, (∀ c ∈ text, isWhitespace c = false) →
      text.dropWhile isWhitespace = text := by
    intro text h
    rcases text with _ | ⟨c, text⟩
    · rfl
    exact dropWhile_cons_of_neg (by rw [h c mem_cons_self]; exact Bool.false_ne_true)
  rw [trim, hd h, hd (fun c hc => h c (mem_reverse.mp hc)), reverse_reverse]

variable {root name : List Char} {kind : UInt8} {n depth idx : ℕ} {p : Param} {ps : List AbiParam}
  {bytes below rest rest' : Bytes} {comps : List SchemaParam}
  {ity : Option InternalType} {sfx : List Suffix}

lemma IsRoot.trim (h : IsRoot root) : trim root = root := by
  refine trim_eq_self fun c hc => ?_
  have hch := h.2 c hc
  have hl : [0x20, 0x85, 0xA0, 0x1680, 0x2028, 0x2029, 0x202F, 0x205F, 0x3000].contains c.toNat
      = false := by
    simp only [contains_eq_mem, decide_eq_false_iff_not, mem_cons, not_mem_nil, or_false]
    omega
  rw [isWhitespace, hl, Bool.or_false, decide_eq_false_iff_not]
  omega

lemma IsRoot.arraySize (h : IsRoot root) : Cli.arraySize (Rust.trim root) = none := by
  rw [h.trim, Cli.arraySize, if_neg h.getLast?]

lemma parseSolidityType_text (e : Elementary) :
    parseSolidityType e.text = parseElementary e.text := by
  have ht : e.text ≠ "tuple".toList := by
    cases e <;> simp [Elementary.text, Elementary.stem, Elementary.size]
  rw [parseSolidityType, e.isRoot_text.arraySize, e.isRoot_text.trim]
  exact if_neg ht

lemma parseSolidityType_tuple : parseSolidityType "tuple".toList = .ok (22, 0) := by
  rw [parseSolidityType, isRoot_tuple.arraySize, isRoot_tuple.trim]
  rfl

/-- The families of types with a size in their name, size by size. -/
lemma parseElementary_sized (w : Fin 32) :
    parseElementary ("uint".toList ++ sizeText (8 * (w + 1))) = (okOr (integerKind 2 (8 * (w + 1)))
      ("unsupported uint size: uint" ++ toString (8 * (w.val + 1)))).map (·, 0) ∧
    parseElementary ("int".toList ++ sizeText (8 * (w + 1))) = (okOr (integerKind 3 (8 * (w + 1)))
      ("unsupported int size: int" ++ toString (8 * (w.val + 1)))).map (·, 0) ∧
    parseElementary ("bytes".toList ++ sizeText (w + 1))
      = .ok (if w.val + 1 = 32 then (15, 0) else (16, w + 1)) := by
  revert w
  decide +kernel

lemma tlvKind_of_integerKind {bits : ℕ} (n : ℕ) (comps : List SchemaParam) :
    (integerKind 2 bits = some kind → tlvKindToDynSolType kind n comps = .ok (.uint bits)) ∧
    (integerKind 3 bits = some kind → tlvKindToDynSolType kind n comps = .ok (.int bits)) := by
  constructor <;>
    · intro h
      unfold integerKind at h
      split at h <;> cases h <;> rfl

lemma tlvKind_of_parseElementary {e : Elementary} (h : parseElementary e.text = .ok (kind, n))
    (comps : List SchemaParam) :
    tlvKindToDynSolType kind (n % 65536) comps = .ok e.solType := by
  have hints := fun bits kind => @tlvKind_of_integerKind bits kind (n % 65536) comps
  cases e with
  | bool | address | string | bytes => cases h; rfl
  | function => cases h
  | uint w =>
    rcases w with _ | w
    · cases h; rfl
    obtain ⟨k, hk, hpa⟩ := exceptMap_eq_ok.mp ((parseElementary_sized w).1.symm.trans h)
    cases hpa
    exact (hints _ _).1 (okOr_eq_ok.mp hk)
  | int w =>
    rcases w with _ | w
    · cases h; rfl
    obtain ⟨k, hk, hpa⟩ := exceptMap_eq_ok.mp ((parseElementary_sized w).2.1.symm.trans h)
    cases hpa
    exact (hints _ _).2 (okOr_eq_ok.mp hk)
  | fixedBytes size =>
    have hp := (parseElementary_sized size).2.2.symm.trans h
    rw [Elementary.solType]
    split_ifs at hp with hs
    · cases hp
      rw [hs]
      rfl
    · cases hp
      rw [mod_eq_of_lt (by omega)]
      rfl

lemma typeText_head (h : IsRoot root) (ss : List Suffix) : (typeText root ss).head? ≠ some '[' := by
  have hh : (typeText root ss).head? = root.head? := by
    induction ss with
    | nil => rfl
    | cons s ss ih =>
      have hne : typeText root ss ≠ [] := by
        intro hnil
        rw [hnil, head?_nil] at ih
        exact h.1 (head?_eq_none_iff.mp ih.symm)
      rw [typeText, head?_append_of_ne_nil _ hne, ih]
  rw [hh]
  intro hb
  exact absurd (h.2 _ (mem_of_mem_head? hb)) (by decide)

lemma children_of_suffix (h : IsRoot root) (name : List Char) (s : Suffix) (ss : List Suffix)
    (ity : Option InternalType) :
    ∃ element, (⟨name, typeText root (s :: ss), [], ity⟩ : Param).children = [element] := by
  have hmem : '[' ∈ typeText root (s :: ss) := by simp [typeText, Suffix.text]
  obtain ⟨⟨base, after⟩, hs⟩ := rsplit_isSome hmem
  have hb : base.isEmpty = false := by
    rcases base with _ | ⟨c, base⟩
    · have hh := typeText_head h (s :: ss)
      rw [rsplit_eq_some hs] at hh
      exact absurd rfl hh
    rfl
  refine ⟨⟨[], base, [], none⟩, ?_⟩
  rw [Param.children, Param.element, if_pos ⟨s.text_getLast? _, rfl⟩]
  simp only [hs, hb, Bool.false_eq_true, if_false]

lemma children_of_root (h : IsRoot root) (name : List Char) (ity : Option InternalType) :
    (⟨name, root, [], ity⟩ : Param).children = [] := by
  rw [Param.children, Param.element, if_neg (fun hl => h.getLast? hl.1)]

lemma children_of_components {q : Param} {qs : List Param} (h : p.components = q :: qs) :
    p.children = q :: qs := by
  rw [Param.children, Param.element, if_neg (fun hl => by rw [h] at hl; cases hl.2), h]

lemma AbiParam.children_elementary (name : List Char) (ty : Elementary)
    (ity : Option InternalType) :
    (elementary name ty [] ity).toParam.children = [] :=
  children_of_root ty.isRoot_text name ity

lemma AbiParam.children_tuple (name : List Char) (first : AbiParam) (others : List AbiParam)
    (sfx : List Suffix) (ity : Option InternalType) :
    (tuple name first others sfx ity).toParam.children = (first :: others).map toParam := by
  rw [children_of_components rfl, toParams_eq_map, map_cons]

lemma u16FromBe_u16Bytes (n : ℕ) :
    u16FromBe (UInt8.ofNat (n >>> 8)) (UInt8.ofNat (n &&& 0xFF)) = n % 65536 := by
  rw [u16FromBe, UInt8.toNat_ofNat', UInt8.toNat_ofNat', and_two_pow_sub_one_eq_mod n 8,
    shiftRight_eq_div_pow]
  omega

lemma shiftLeft_or_byte (a i : ℕ) {b : ℕ} (h : b < 256) :
    a <<< (i + 8) ||| b <<< i = (a * 256 + b) <<< i := by
  rw [add_comm i 8, shiftLeft_add, ← shiftLeft_or_distrib,
    ← shiftLeft_add_eq_or_of_lt (i := 8) h, shiftLeft_eq a]

lemma twoBytes_first : ∀ x < 64, (0x80 ||| x) % 256 &&& 0x80 ≠ 0 ∧
    (0x80 ||| x) % 256 &&& 0xC0 = 0x80 ∧ (0x80 ||| x) % 256 &&& 0x3F = x := by
  decide

lemma threeBytes_first : ∀ x < 32, (0xC0 ||| x) % 256 &&& 0x80 ≠ 0 ∧
    (0xC0 ||| x) % 256 &&& 0xC0 ≠ 0x80 ∧ (0xC0 ||| x) % 256 &&& 0xE0 = 0xC0 ∧
    (0xC0 ||| x) % 256 &&& 0x1F = x := by
  decide

lemma fourBytes_first (x : ℕ) : (0xE0 ||| x) % 256 &&& 0x80 ≠ 0 ∧
    (0xE0 ||| x) % 256 &&& 0xC0 ≠ 0x80 ∧ (0xE0 ||| x) % 256 &&& 0xE0 ≠ 0xC0 ∧
    (0xE0 ||| x) % 256 &&& 0x0F = x % 16 := by
  have hmod : (0xE0 ||| x) % 256 = 0xE0 ||| x % 256 := or_mod_two_pow (n := 8)
  have hb : ∀ y < 256, (0xE0 ||| y) &&& 0x80 ≠ 0 ∧ (0xE0 ||| y) &&& 0xC0 ≠ 0x80 ∧
      (0xE0 ||| y) &&& 0xE0 ≠ 0xC0 ∧ (0xE0 ||| y) &&& 0x0F = y % 16 := by
    decide +kernel
  rw [hmod]
  obtain ⟨h1, h2, h3, h4⟩ := hb (x % 256) (mod_lt _ (by decide))
  exact ⟨h1, h2, h3, by rw [h4]; omega⟩

lemma readCompactLength_compactLength (len : ℕ) (rest : Bytes) :
    readCompactLength (compactLength len ++ rest) = .ok (len % 0x10000000, rest) := by
  have hlow : ∀ n : ℕ, n &&& 0xFF = n % 256 := fun n => and_two_pow_sub_one_eq_mod n 8
  have hl : ∀ a n : ℕ, a <<< 8 ||| n % 256 = a * 256 + n % 256 :=
    fun a n => shiftLeft_or_byte a 0 (mod_lt n (by decide))
  have hn : ∀ a n : ℕ, a <<< 16 ||| (n % 256) <<< 8 = (a * 256 + n % 256) <<< 8 :=
    fun a n => shiftLeft_or_byte a 8 (mod_lt n (by decide))
  have ht : ∀ a n : ℕ, a <<< 24 ||| (n % 256) <<< 16 = (a * 256 + n % 256) <<< 16 :=
    fun a n => shiftLeft_or_byte a 16 (mod_lt n (by decide))
  unfold compactLength
  split_ifs with h1 h2 h3
  · have hf : ∀ n < 0x80, n &&& 0x80 = 0 := by decide
    simp only [cons_append, nil_append, readCompactLength, toNat_ofNat_of_lt
      (show len < 256 by omega), if_pos (hf len h1), mod_eq_of_lt
      (show len < 0x10000000 by omega)]
  · obtain ⟨hne, hk, hv⟩ := twoBytes_first (len >>> 8) (by rw [shiftRight_eq_div_pow]; omega)
    have hlen : len >>> 8 * 256 + len % 256 = len % 0x10000000 := by
      omega
    simp only [cons_append, nil_append, readCompactLength, UInt8.toNat_ofNat', if_neg hne,
      if_pos hk, hv, hlow, reducePow, mod_mod, hl]
    rw [hlen]
  · obtain ⟨hne, hne', hk, hv⟩ := threeBytes_first (len >>> 16)
      (by rw [shiftRight_eq_div_pow]; omega)
    have hlen : (len >>> 16 * 256 + len >>> 8 % 256) * 256 + len % 256 = len % 0x10000000 := by
      omega
    simp only [cons_append, nil_append, readCompactLength, UInt8.toNat_ofNat', if_neg hne,
      if_neg hne', if_pos hk, hv, hlow, reducePow, mod_mod, hn, hl]
    rw [hlen]
  · obtain ⟨hne, hne', hne'', hv⟩ := fourBytes_first (len >>> 24)
    have hlen : ((len >>> 24 % 16 * 256 + len >>> 16 % 256) * 256 + len >>> 8 % 256) * 256
        + len % 256 = len % 0x10000000 := by
      omega
    simp only [cons_append, nil_append, readCompactLength, UInt8.toNat_ofNat', if_neg hne,
      if_neg hne', if_neg hne'', hv, hlow, reducePow, mod_mod, ht, hn, hl]
    rw [hlen]

lemma trim_spec (text : List Char) : ∃ before after, text = before ++ trim text ++ after ∧
      (∀ c ∈ before, isWhitespace c = true) ∧ ∀ c ∈ after, isWhitespace c = true := by
  have hs : ∀ {text : List Char}, ∀ c ∈ text.takeWhile isWhitespace, isWhitespace c = true :=
    fun _ hc => mem_takeWhile_imp hc
  refine ⟨text.takeWhile isWhitespace,
    ((text.dropWhile isWhitespace).reverse.takeWhile isWhitespace).reverse, ?_, hs,
    fun c hc => hs c (mem_reverse.mp hc)⟩
  rw [trim, append_assoc, ← reverse_append, takeWhile_append_dropWhile,
    reverse_reverse, takeWhile_append_dropWhile]

/-- Bytes of whitespace, of replacement characters and of the rest of a character: none is the
kind of a field, apart from those of some integers. -/
def Blank (b : UInt8) : Prop := 9 ≤ b.toNat ∧ b.toNat ≤ 13 ∨ 22 < b.toNat

variable {b : UInt8} {ty : DynSolType} {names : List (List Char)} {first : AbiParam}
  {others : List AbiParam}

lemma blank_of_utf8EncodeChar {c : Char} (hc : isWhitespace c = true ∨ c = replacementCharacter)
    (h : b ∈ String.utf8EncodeChar c) : Blank b := by
  rcases mem_utf8EncodeChar h with ⟨ha, hb⟩ | ⟨-, hb⟩
  · rcases hc with hc | rfl
    · rw [isWhitespace, Bool.or_eq_true, decide_eq_true_eq] at hc
      simp only [contains_eq_mem, decide_eq_true_eq, mem_cons, not_mem_nil, or_false] at hc
      unfold Blank
      omega
    · exact absurd ha (by decide)
  · exact .inr (by omega)

def isSolid (c : Char) : Bool := !isWhitespace c && decide (c ≠ replacementCharacter)

lemma countP_isSolid_trim (text : List Char) :
    (trim text).countP isSolid = text.countP isSolid := by
  have hsp : ∀ {s : List Char}, (∀ c ∈ s, isWhitespace c = true) → s.countP isSolid = 0 :=
    fun hs => countP_eq_zero.mpr fun c hc => by simp [isSolid, hs c hc]
  obtain ⟨before, after, ht, hb, ha⟩ := trim_spec text
  conv_rhs => rw [ht]
  rw [countP_append, countP_append, hsp hb, hsp ha, zero_add, add_zero]

lemma blank_of_not_isSolid {text : List Char} (h : text.countP isSolid = 0) (hb : b ∈ utf8 text) :
    Blank b := by
  obtain ⟨c, hc, hb⟩ := mem_flatMap.mp hb
  have hs := countP_eq_zero.mp h c hc
  refine blank_of_utf8EncodeChar ?_ hb
  simpa [isSolid, or_iff_not_imp_left] using hs

lemma blank_of_cut {i : ℕ} (hi : i ≤ (utf8 name).length)
    (h : fromUtf8Lossy ((utf8 name).take i) = trim name) (hb : b ∈ (utf8 name).drop i) :
    Blank b := by
  -- trimming keeps all solid characters, so none of them is cut off
  have hc := countP_isSolid_trim name
  rcases utf8_cut name hi with ⟨s, t, rfl, ht, hd⟩ | ⟨s, c, t, j, rfl, hj, hj', ht, hd⟩
  · rw [ht, fromUtf8Lossy_utf8] at h
    rw [← h, countP_append] at hc
    rw [hd] at hb
    exact blank_of_not_isSolid (by omega) hb
  rw [ht, fromUtf8Lossy_cut s c hj hj'] at h
  rw [← h, countP_append, countP_append] at hc
  have hr : [replacementCharacter].countP isSolid = 0 := by decide
  have hs : (c :: t).countP isSolid = 0 := by omega
  rw [countP_cons] at hs
  rw [hd] at hb
  rcases mem_append.mp hb with hb | hb
  · -- a character that can be cut has several bytes
    rcases mem_utf8EncodeChar (mem_of_mem_drop hb) with ⟨ha, -⟩ | ⟨-, hb⟩
    · rw [length_utf8EncodeChar_ascii ha] at hj'
      omega
    · exact .inr (by omega)
  · exact blank_of_not_isSolid (by omega) hb

def nameCut (name : List Char) : ℕ := (utf8 name).length % 0x10000000

lemma nameCut_le (name : List Char) : nameCut name ≤ (utf8 name).length := mod_le _ _

lemma decodeTlvField_written (depth idx : ℕ) (kind : UInt8) (n cnt : ℕ) (name : List Char)
    (below : Bytes) :
    decodeTlvField (depth + 1) (fieldHeader kind n cnt ++ compactString name ++ below) idx = (do
      let (comps, rest) ← decodeFieldsWith (decodeTlvField depth) (cnt % 65536) 0
        ((utf8 name).drop (nameCut name) ++ below)
      let ty ← tlvKindToDynSolType kind (n % 65536) comps
      .ok (⟨nameOption (fromUtf8Lossy ((utf8 name).take (nameCut name))), ty, comps⟩, rest)) := by
  have hl := readCompactLength_compactLength (utf8 name).length (utf8 name ++ below)
  have hle := nameCut_le name
  have hr : ¬ (utf8 name ++ below).length < nameCut name := by
    rw [length_append]
    omega
  rw [← nameCut] at hl
  simp only [fieldHeader, u16Bytes, compactString, cons_append, nil_append,
    append_assoc, decodeTlvField, hl, ok_bind, rejectIf, if_neg hr,
    u16FromBe_u16Bytes, take_append_of_le_length hle, drop_append_of_le_length hle]

def PlainName (name : List Char) : Prop := trim name = name ∧ (utf8 name).length < 0x10000000

instance (name : List Char) : Decidable (PlainName name) :=
  inferInstanceAs (Decidable (trim name = name ∧ (utf8 name).length < 0x10000000))

def isStruct : Option InternalType → Bool
  | some (.struct _) => true
  | _ => false

inductive AbiParam.Plain : AbiParam → Prop
  | elementary {name : List Char} {ty : Elementary} {internalType : Option InternalType}
      (hname : PlainName name) : Plain (.elementary name ty [] internalType)
  | tuple {name : List Char} {first : AbiParam} {others : List AbiParam}
      {internalType : Option InternalType} (hname : PlainName name)
      (hstruct : isStruct internalType = false) (hfields : ∀ p ∈ first :: others, Plain p) :
      Plain (.tuple name first others [] internalType)

lemma nameCut_of_lt (h : (utf8 name).length < 0x10000000) :
    nameCut name = (utf8 name).length := mod_eq_of_lt h

lemma PlainName.read (h : PlainName name) :
    fromUtf8Lossy ((utf8 name).take (nameCut name)) = trim name ∧
      (utf8 name).drop (nameCut name) = [] := by
  rw [nameCut_of_lt h.2, take_length, drop_length, fromUtf8Lossy_utf8, h.1]
  exact ⟨rfl, rfl⟩

lemma decodeFieldsWith_written {decode : Bytes → ℕ → Except String (SchemaParam × Bytes)}
    {bound : ℕ}
    (hd : ∀ p ∈ ps, ∀ {bytes}, fieldBytes p.toParam = .ok bytes → bytes.length ≤ bound →
      ∀ rest idx, decode (bytes ++ rest) idx = .ok (p.schema, rest))
    (h : fieldsBytes (ps.map toParam) = .ok bytes) (hb : bytes.length ≤ bound)
    (rest : Bytes) (idx : ℕ) :
    decodeFieldsWith decode ps.length idx (bytes ++ rest) = .ok (ps.map schema, rest) := by
  induction ps generalizing bytes idx with
  | nil =>
    rw [map_nil, fieldsBytes] at h
    cases h
    rfl
  | cons p ps ih =>
    rw [forall_mem_cons] at hd
    obtain ⟨first, others, hf, ho, rfl⟩ := fieldsBytes_cons_eq_ok h
    rw [length_append] at hb
    rw [length_cons, decodeFieldsWith, append_assoc,
      hd.1 hf (by omega) (others ++ rest) idx, ok_bind]
    simp only [ih hd.2 ho (by omega) (idx + 1), ok_bind, map_cons]

lemma decodeTlvField_plain (hn : PlainName name) {cnt : ℕ}
    (hf : decodeFieldsWith (decodeTlvField depth) (cnt % 65536) 0 (below ++ rest)
      = .ok (comps, rest')) (hty : tlvKindToDynSolType kind (n % 65536) comps = .ok ty) (idx : ℕ) :
    decodeTlvField (depth + 1) (fieldHeader kind n cnt ++ compactString name ++ below ++ rest) idx
      = .ok (⟨nameOption (trim name), ty, comps⟩, rest') := by
  rw [append_assoc, decodeTlvField_written, hn.read.1, hn.read.2, nil_append, hf, ok_bind]
  simp only [hty, ok_bind]

lemma tupleType_of_not_struct (h : isStruct ity = false) (propNames : List (List Char))
    (types : List DynSolType) : tupleType ity propNames types = .tuple types := by
  unfold tupleType
  split
  next => cases h
  next => rfl

lemma tlvKind_of_tuple (h : isStruct ity = false) (name : List Char) (first : AbiParam)
    (others : List AbiParam) (n : ℕ) :
    tlvKindToDynSolType 22 n ((first :: others).map schema)
      = .ok (tuple name first others [] ity).solType := by
  have hty : SchemaParam.ty ∘ schema = solType := funext ty_schema
  rw [solType, wrapAll, tupleType_of_not_struct h, solTypes_eq_map, ← map_cons, ← hty, ← map_map]
  rfl

lemma AbiParam.Plain.decode {p : AbiParam} (hp : p.Plain) (h : fieldBytes p.toParam = .ok bytes)
    (hd : bytes.length ≤ depth) (rest : Bytes) (idx : ℕ) :
    decodeTlvField depth (bytes ++ rest) idx = .ok (p.schema, rest) := by
  induction hp generalizing bytes depth rest idx with
  | @elementary name ty ity hn =>
    obtain ⟨kind, n, below, hpa, -, hb, rfl⟩ := fieldBytes_eq_ok h
    rw [children_elementary, fieldsBytes] at hb
    cases hb
    obtain ⟨depth, rfl⟩ := Nat.exists_eq_add_of_lt (lt_of_lt_of_le (succ_pos _) hd)
    rw [zero_add, children_elementary]
    exact decodeTlvField_plain hn rfl
      (tlvKind_of_parseElementary ((parseSolidityType_text ty).symm.trans hpa) []) idx
  | @tuple name first others ity hn hs hf ih =>
    obtain ⟨kind, n, below, hpa, hc, hb, rfl⟩ := fieldBytes_eq_ok h
    cases parseSolidityType_tuple.symm.trans hpa
    rw [children_tuple] at hb hc hd ⊢
    simp only [length_append, fieldHeader, length_cons] at hd
    obtain ⟨depth, rfl⟩ : ∃ d, depth = d + 1 := ⟨depth - 1, by omega⟩
    rw [length_map] at hc ⊢
    have hf : decodeFieldsWith (decodeTlvField depth) ((first :: others).length % 65536) 0
        (below ++ rest) = .ok ((first :: others).map schema, rest) := by
      rw [mod_eq_of_lt (lt_succ_of_le hc)]
      exact decodeFieldsWith_written (fun p hp _ h hl => ih p hp h hl) hb
        (by omega : below.length ≤ depth) rest 0
    rw [schema, schemas_eq_map]
    exact decodeTlvField_plain hn hf (tlvKind_of_tuple hs name first others _) idx

def Junk (bytes : Bytes) : Prop := 5 ≤ bytes.length ∧ ∀ b ∈ bytes.take 5, Blank b

lemma length_components_of_decode {count : ℕ}
    (h : decodeFieldsWith (decodeTlvField depth) count idx bytes = .ok (comps, rest)) :
    comps.length = count :=
  (of_decodeFieldsWith (fun _ _ _ _ hd => by have := length_of_decodeTlvField hd; omega) h).1

lemma wrapAll_tuple_ne_integer {tys : List DynSolType} (ss : List Suffix) (bits : ℕ) :
    wrapAll ss (tupleType ity names tys) ≠ .int bits ∧
      wrapAll ss (tupleType ity names tys) ≠ .uint bits := by
  rcases ss with _ | ⟨s, ss⟩
  · rw [wrapAll]
    unfold tupleType
    split <;> simp
  cases s <;> simp [wrapAll, Suffix.wrap]

lemma tlvKind_of_blank (h : Blank kind) (hty : tlvKindToDynSolType kind n comps = .ok ty) :
    ∃ bits, ty = .int bits ∨ ty = .uint bits := by
  unfold Blank at h
  unfold tlvKindToDynSolType at hty
  generalize kind.toNat = k at h hty
  obtain rfl | rfl | rfl | rfl | rfl | ⟨j, rfl⟩ :
      k = 9 ∨ k = 10 ∨ k = 11 ∨ k = 12 ∨ k = 13 ∨ ∃ j, k = j + 23 := by
    rcases h with h | h
    · omega
    · exact .inr (.inr (.inr (.inr (.inr ⟨k - 23, by omega⟩))))
  · exact ⟨_, .inl (ok.inj hty).symm⟩
  · exact ⟨_, .inr (ok.inj hty).symm⟩
  · exact ⟨_, .inl (ok.inj hty).symm⟩
  · exact ⟨_, .inr (ok.inj hty).symm⟩
  · exact ⟨_, .inl (ok.inj hty).symm⟩
  · cases hty

lemma not_schema_of_junk (h : Junk bytes) (p : AbiParam) :
    decodeTlvField depth bytes idx ≠ .ok (p.schema, rest) := by
  intro hd
  obtain ⟨d, kind, l1, l0, c1, c0, tail, nameLen, body, -, rfl, -, -, -, hf, hty⟩ :=
    decodeTlvField_eq_ok hd
  have hk := h.2 kind (by simp)
  have hc : 0 < u16FromBe c1 c0 := by
    have hc1 : Blank c1 := h.2 c1 (by simp)
    unfold Blank at hc1
    rw [u16FromBe]
    omega
  rcases p with ⟨name, ty, sfx, ity⟩ | ⟨name, first, others, sfx, ity⟩
  · have hl := length_components_of_decode hf
    rw [schema, length_nil] at hl
    omega
  obtain ⟨bits, hb | hb⟩ := tlvKind_of_blank hk hty
  · exact (wrapAll_tuple_ne_integer sfx bits).1 hb
  · exact (wrapAll_tuple_ne_integer sfx bits).2 hb

lemma plain_or_junk (h : fromUtf8Lossy ((utf8 name).take (nameCut name)) = trim name) :
    PlainName name ∨ ∀ rest, Junk ((utf8 name).drop (nameCut name) ++ rest) := by
  by_cases hl : (utf8 name).length < 0x10000000
  · rw [nameCut_of_lt hl, take_length, fromUtf8Lossy_utf8] at h
    exact .inl ⟨h.symm, hl⟩
  have hlo : 5 ≤ ((utf8 name).drop (nameCut name)).length := by
    rw [length_drop, nameCut]
    omega
  refine .inr fun rest => ⟨by rw [length_append]; omega, fun b hb => ?_⟩
  rw [take_append_of_le_length hlo] at hb
  exact blank_of_cut (nameCut_le name) h (mem_of_mem_take hb)

lemma of_decodeTlvField_written {cnt : ℕ} {p : SchemaParam}
    (h : decodeTlvField depth (fieldHeader kind n cnt ++ compactString name ++ below) idx
      = .ok (p, rest)) :
    ∃ d, p.name = nameOption (fromUtf8Lossy ((utf8 name).take (nameCut name))) ∧
      decodeFieldsWith (decodeTlvField d) (cnt % 65536) 0
        ((utf8 name).drop (nameCut name) ++ below) = .ok (p.components, rest) ∧
      tlvKindToDynSolType kind (n % 65536) p.components = .ok p.ty := by
  rcases depth with _ | d
  · cases h
  rw [decodeTlvField_written] at h
  obtain ⟨⟨comps, rest'⟩, hf, h⟩ := bind_eq_ok.mp h
  obtain ⟨ty, hty, h⟩ := bind_eq_ok.mp h
  cases h
  exact ⟨d, rfl, hf, hty⟩

lemma wrapAll_ne_first {first : DynSolType} {others : List DynSolType} (ss : List Suffix) :
    wrapAll ss (tupleType ity names (first :: others)) ≠ first := by
  have hw : ∀ ty, sizeOf ty ≤ sizeOf (wrapAll ss ty) := by
    intro ty
    induction ss with
    | nil => exact le_refl _
    | cons s ss ih =>
      cases s <;>
        · simp only [wrapAll, Suffix.wrap, DynSolType.array.sizeOf_spec,
            DynSolType.fixedArray.sizeOf_spec]
          omega
  have ht : sizeOf first < sizeOf (tupleType ity names (first :: others)) := by
    unfold tupleType
    split <;>
      · simp only [DynSolType.customStruct.sizeOf_spec, DynSolType.tuple.sizeOf_spec,
          cons.sizeOf_spec]
        omega
  intro h
  have hle := hw (tupleType ity names (first :: others))
  rw [h] at hle
  omega

lemma of_tlvKind_tuple (name : List Char) {m : ℕ}
    (hp : parseSolidityType (typeText "tuple".toList sfx) = .ok (kind, n))
    (hty : tlvKindToDynSolType kind m ((first :: others).map schema)
      = .ok (tuple name first others sfx ity).solType) : sfx = [] ∧ isStruct ity = false := by
  cases sfx with
  | nil =>
    cases parseSolidityType_tuple.symm.trans hp
    refine ⟨rfl, ?_⟩
    rcases ity with _ | it
    · rfl
    rcases it with name | text
    · cases hty
    rfl
  | cons s ss =>
    obtain ⟨base, ht⟩ := trim_bracketed (typeText "tuple".toList ss) s.size
    obtain ⟨size, hs⟩ := arraySize_bracketed base s.size
    rw [← ht] at hs
    -- the element type is read from the first component
    have hne := @wrapAll_ne_first ity ((first :: others).map AbiParam.name) first.solType
      (solTypes others) ss
    rcases kind_of_arraySize hs hp with rfl | rfl
    · rcases s with _ | ⟨size, pos⟩
      · cases hty
      have he := (DynSolType.fixedArray.inj (ok.inj hty)).1
      exact absurd (he.symm.trans first.ty_schema) hne
    · rcases s with _ | ⟨size, pos⟩
      · have he := DynSolType.array.inj (ok.inj hty)
        exact absurd (he.symm.trans first.ty_schema) hne
      cases hty

lemma of_decodeFieldsWith_written (hd : ∀ p ∈ ps, ∀ {bytes rest rest' : Bytes} {idx : ℕ},
      fieldBytes p.toParam = .ok bytes →
      decodeTlvField depth (bytes ++ rest) idx = .ok (p.schema, rest') →
      p.Plain ∧ rest' = rest ∨ Junk rest') (h : fieldsBytes (ps.map toParam) = .ok bytes)
    (hr : decodeFieldsWith (decodeTlvField depth) ps.length idx (bytes ++ rest)
      = .ok (ps.map schema, rest')) : (∀ p ∈ ps, p.Plain) ∧ rest' = rest ∨ Junk rest' := by
  induction ps generalizing bytes idx with
  | nil =>
    rw [map_nil, fieldsBytes] at h
    cases h
    cases hr
    exact .inl ⟨forall_mem_nil _, rfl⟩
  | cons p ps ih =>
    rw [forall_mem_cons] at hd
    obtain ⟨first, others, hf, ho, rfl⟩ := fieldsBytes_cons_eq_ok h
    obtain ⟨q, qs, middle, hq, hp, hps⟩ := decodeFieldsWith_succ_eq_ok hr
    cases hq
    rw [append_assoc] at hp
    rcases hd.1 hf hp with ⟨hpla, rfl⟩ | hj
    · rcases ih hd.2 ho hps with ⟨hpl, hre⟩ | hj
      · exact .inl ⟨forall_mem_cons.mpr ⟨hpla, hpl⟩, hre⟩
      · exact .inr hj
    -- nothing that is expected can follow
    rcases ps with _ | ⟨p', ps⟩
    · cases hps
      exact .inr hj
    obtain ⟨q, qs, middle', hq, hp', -⟩ := decodeFieldsWith_succ_eq_ok hps
    cases hq
    exact absurd hp' (not_schema_of_junk hj p')

lemma plain_of_decode_elementary {ty : Elementary}
    (h : fieldBytes (elementary name ty sfx ity).toParam = .ok bytes)
    (hr : decodeTlvField depth (bytes ++ rest) idx
      = .ok ((elementary name ty sfx ity).schema, rest')) :
    (elementary name ty sfx ity).Plain ∧ rest' = rest ∨ Junk rest' := by
  obtain ⟨kind, n, below, -, -, hb, rfl⟩ := fieldBytes_eq_ok h
  rw [append_assoc] at hr
  obtain ⟨d, hn, hf, -⟩ := of_decodeTlvField_written hr
  cases sfx with
  | nil =>
    rw [children_elementary, fieldsBytes] at hb
    cases hb
    rw [children_elementary] at hf
    cases hf
    rcases plain_or_junk (nameOption_injective hn).symm with hp | hj
    · refine .inl ⟨.elementary hp, ?_⟩
      exact congrArg (· ++ ([] ++ rest)) hp.read.2
    · exact .inr (hj _)
  | cons s ss =>
    -- the element type is read as a component
    obtain ⟨element, hc⟩ := children_of_suffix ty.isRoot_text name s ss ity
    have hl := length_components_of_decode hf
    rw [toParam, hc] at hl
    cases hl

lemma plain_of_decode_tuple
    (ih : ∀ p ∈ first :: others, ∀ {depth idx : ℕ} {bytes rest rest' : Bytes},
      fieldBytes p.toParam = .ok bytes →
      decodeTlvField depth (bytes ++ rest) idx = .ok (p.schema, rest') →
      p.Plain ∧ rest' = rest ∨ Junk rest')
    (h : fieldBytes (tuple name first others sfx ity).toParam = .ok bytes)
    (hr : decodeTlvField depth (bytes ++ rest) idx
      = .ok ((tuple name first others sfx ity).schema, rest')) :
    (tuple name first others sfx ity).Plain ∧ rest' = rest ∨ Junk rest' := by
  obtain ⟨kind, n, below, hpa, hc, hb, rfl⟩ := fieldBytes_eq_ok h
  rw [children_tuple] at hc hb
  rw [append_assoc, children_tuple, length_map] at hr
  rw [length_map] at hc
  obtain ⟨d, hn, hf, hty⟩ := of_decodeTlvField_written hr
  rw [schema, schemas_eq_map, ← map_cons] at hf hty
  rw [mod_eq_of_lt (lt_succ_of_le hc)] at hf
  obtain ⟨rfl, hs⟩ := of_tlvKind_tuple name hpa hty
  rcases plain_or_junk (nameOption_injective hn).symm with hpl | hj
  · rw [hpl.read.2, nil_append] at hf
    rcases of_decodeFieldsWith_written (fun p hp _ _ _ _ => ih p hp) hb hf with
      ⟨hpla, hre⟩ | hj
    · exact .inl ⟨.tuple hpl hs hpla, hre⟩
    · exact .inr hj
  · -- the first component would be read from junk
    obtain ⟨q, qs, middle, hq, hp, -⟩ := decodeFieldsWith_succ_eq_ok hf
    cases hq
    exact absurd hp (not_schema_of_junk (hj _) first)

lemma plain_of_decodeTlvField (p : AbiParam) (h : fieldBytes p.toParam = .ok bytes)
    (hr : decodeTlvField depth (bytes ++ rest) idx = .ok (p.schema, rest')) :
    p.Plain ∧ rest' = rest ∨ Junk rest' := by
  induction p using induct generalizing depth idx bytes rest rest' with
  | elementary name ty sfx ity => exact plain_of_decode_elementary h hr
  | tuple name first others sfx ity ih => exact plain_of_decode_tuple ih h hr

def RoundTrips (R : Resolver) (ps : List AbiParam) (bytes : Bytes) : Prop :=
  ∃ params, readTlvSchema bytes = .ok (params, []) ∧
    SchemaParam.fromParams R.resolve (ps.map AbiParam.toParam) = .ok params

/-- **Round trip.** A schema that was encoded is read back as it was just if it has a field and
all its parameters are plain. -/
theorem roundTrips_iff (R : Resolver) (ps : List AbiParam) {bytes : Bytes}
    (h : encodeSchema (ps.map AbiParam.toParam) = .ok bytes) :
    RoundTrips R ps bytes ↔ ps ≠ [] ∧ ∀ p ∈ ps, p.Plain := by
  have hex : RoundTrips R ps bytes ↔ readTlvSchema bytes = .ok (ps.map schema, []) := by
    rw [RoundTrips, fromParams_toParam]
    simp
  rw [hex]
  rw [encodeSchema_eq] at h
  split_ifs at h with he hc
  · obtain rfl : ps = [] := by simpa using he
    cases h
    simp [readTlvSchema]
  rw [isEmpty_map, List.isEmpty_iff] at he
  obtain ⟨fields, hf, rfl⟩ := exceptMap_eq_ok.mp h
  rw [orErr_eq_ok] at hf
  rw [length_map] at hc ⊢
  have hr : readTlvSchema (2 :: (u16Bytes ps.length ++ fields))
      = decodeFieldsWith (decodeTlvField fields.length) ps.length 0 (fields ++ []) := by
    simp only [readTlvSchema, u16Bytes, cons_append, nil_append, if_true,
      u16FromBe_u16Bytes, mod_eq_of_lt (show ps.length < 65536 by omega), append_nil]
  rw [hr]
  constructor
  · intro hok
    rcases of_decodeFieldsWith_written (fun p _ _ _ _ _ => plain_of_decodeTlvField p)
      hf hok with ⟨hpl, -⟩ | hj
    · exact ⟨he, hpl⟩
    · exact absurd hj.1 (by decide)
  · intro hpl
    exact decodeFieldsWith_written (fun p hp _ hp' hl => (hpl.2 p hp).decode hp' hl)
      hf (le_refl _) [] 0

abbrev point (suffixes : List Suffix) : AbiParam :=
  .tuple "point".toList (.elementary "x".toList (.uint (some 7)) [] none)
    [.elementary "flag".toList .bool [] none] suffixes none

abbrev values : AbiParam := .elementary "values".toList (.uint (some 31)) [.dynamic] none

lemma fieldBytes_of_children {children : List Param}
    (hp : parseSolidityType p.ty = .ok (kind, n)) (hb : fieldsBytes children = .ok below)
    (hc : p.children = children) (hco : children.length ≤ 65535)
    (hby : fieldHeader kind n children.length ++ compactString p.name ++ below = bytes) :
    fieldBytes p = .ok bytes := by
  rw [fieldBytes, hp, ok_bind, hc]
  simp only [rejectIf, if_neg (not_lt.mpr hco), hb, ok_bind, hby]

lemma fieldsBytes_cons {ps : List Param} {first others : Bytes}
    (hf : fieldBytes p = .ok first) (ho : fieldsBytes ps = .ok others) :
    fieldsBytes (p :: ps) = .ok (first ++ others) := by
  rw [fieldsBytes, hf, ok_bind, ho, ok_bind]

lemma fieldsBytes_nil : fieldsBytes [] = .ok [] := by
  rw [fieldsBytes]

abbrev pointFields : Bytes := [8, 0, 0, 0, 0, 1, 120] ++ ([1, 0, 0, 0, 0, 4, 102, 108, 97, 103] ++ [])

/-- The types of the tuples below. -/
lemma parseSolidityType_used : parseSolidityType "uint64".toList = .ok (8, 0) ∧
    parseSolidityType "bool".toList = .ok (1, 0) ∧ parseSolidityType "uint256".toList = .ok (12, 0) ∧
    parseSolidityType values.toParam.ty = .ok (21, 0) ∧
    parseSolidityType (point [.dynamic]).toParam.ty = .ok (21, 0) := by
  decide +kernel

lemma fieldsBytes_point (sfx : List Suffix) :
    fieldsBytes (point sfx).toParam.components = .ok pointFields := by
  obtain ⟨hu, hb, -⟩ := parseSolidityType_used
  exact fieldsBytes_cons (fieldBytes_of_children hu fieldsBytes_nil rfl (by decide) rfl)
    (fieldsBytes_cons (fieldBytes_of_children hb fieldsBytes_nil rfl (by decide) rfl) fieldsBytes_nil)

lemma encodeSchema_of_fieldBytes (h : fieldBytes p = .ok bytes) :
    encodeSchema [p] = .ok (2 :: (u16Bytes 1 ++ bytes)) := by
  have hf : fieldsBytes [p] = .ok bytes := by
    rw [fieldsBytes_cons h fieldsBytes_nil, append_nil]
  rw [encodeSchema_eq, hf]
  rfl

lemma fieldBytes_point {start : Bytes}
    (hp : parseSolidityType (point sfx).toParam.ty = .ok (kind, 0))
    (hs : fieldHeader kind 0 2 ++ compactString "point".toList = start) :
    fieldBytes (point sfx).toParam = .ok (start ++ pointFields) :=
  have hc : (point sfx).toParam.components.length ≤ 65535 := le_add_left 2 65533
  fieldBytes_of_children hp (fieldsBytes_point sfx) (children_of_components rfl) hc
    (congrArg (· ++ pointFields) hs)

lemma plain_point : (point []).Plain := by
  refine .tuple (by decide +kernel) rfl fun p hp => ?_
  simp only [mem_cons, not_mem_nil, or_false] at hp
  obtain rfl | rfl := hp <;> exact .elementary (by decide +kernel)

theorem roundTrips_point : ∃ bytes, encodeSchema ([point []].map AbiParam.toParam) = .ok bytes ∧
      RoundTrips Resolver.denoting [point []] bytes := by
  have hb : fieldBytes (point []).toParam
      = .ok ([22, 0, 0, 0, 2, 5, 112, 111, 105, 110, 116] ++ pointFields) :=
    fieldBytes_point parseSolidityType_tuple rfl
  refine ⟨_, encodeSchema_of_fieldBytes hb, ?_⟩
  refine (roundTrips_iff _ [point []] (encodeSchema_of_fieldBytes hb)).mpr ⟨by simp, ?_⟩
  exact forall_mem_singleton.mpr plain_point

/-- `uint256[]` is read back with a component that it does not have, and an array of points as an
array of their first components. -/
theorem arrays_not_read_back : (∃ bytes, encodeSchema ([values].map AbiParam.toParam) = .ok bytes ∧
      readTlvSchema bytes = .ok ([⟨some "values".toList, .array (.uint 256),
        [⟨none, .uint 256, []⟩]⟩], []) ∧
      ¬ RoundTrips Resolver.denoting [values] bytes) ∧
    ∃ bytes, encodeSchema ([point [.dynamic]].map AbiParam.toParam) = .ok bytes ∧
      readTlvSchema bytes = .ok ([⟨some "point".toList, .array (.uint 64),
        [⟨some "x".toList, .uint 64, []⟩, ⟨some "flag".toList, .bool, []⟩]⟩], []) ∧
      ¬ RoundTrips Resolver.denoting [point [.dynamic]] bytes := by
  obtain ⟨-, -, hu, har, hp⟩ := parseSolidityType_used
  have he : fieldBytes ⟨[], "uint256".toList, [], none⟩ = .ok [12, 0, 0, 0, 0, 0] :=
    fieldBytes_of_children hu fieldsBytes_nil rfl (by decide) rfl
  have hv : fieldBytes values.toParam
      = .ok [21, 0, 0, 0, 1, 6, 118, 97, 108, 117, 101, 115, 12, 0, 0, 0, 0, 0] :=
    fieldBytes_of_children har (fieldsBytes_cons he fieldsBytes_nil) rfl (by decide) rfl
  have ha : fieldBytes (point [.dynamic]).toParam
      = .ok ([21, 0, 0, 0, 2, 5, 112, 111, 105, 110, 116] ++ pointFields) :=
    fieldBytes_point hp rfl
  refine ⟨⟨_, encodeSchema_of_fieldBytes hv, rfl, ?_⟩, _, encodeSchema_of_fieldBytes ha, rfl, ?_⟩
  · intro ⟨params, hr, hf⟩
    rw [fromParams_toParam] at hf
    cases hf
    cases hr
  · intro ⟨params, hr, hf⟩
    rw [fromParams_toParam] at hf
    cases hf
    cases hr

end Gadget.Cli
