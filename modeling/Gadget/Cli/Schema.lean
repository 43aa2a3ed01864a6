import Gadget.Rust.Utf8
import Gadget.X402.Gateway

/-!
# Writing a schema

`blueprint deploy` takes the schema of a job as a list of JSON ABI parameters and stores it in
a binary format: a version byte, the number of fields, and for each field its kind, the length
of an array, the number of its children, its name and then the children.
-/

namespace Gadget.Cli

open Rust List Option Except
inductive InternalType where
  | struct (name : List Char)
  | other (text : List Char)

structure Param where
  name : List Char
  ty : List Char
  components : List Param
  internalType : Option InternalType

def rsplit (c : Char) : List Char → Option (List Char × List Char)
  | [] => none
  | x :: xs =>
    match rsplit c xs with
    | some (before, after) => some (x :: before, after)
    | none => if x = c then some ([], xs) else none

variable {c : Char} {text : List Char} {p : Param} {bytes : Bytes}

lemma rsplit_eq_some {before after : List Char} (h : rsplit c text = some (before, after)) :
    text = before ++ c :: after := by
  induction text generalizing before with
  | nil => cases h
  | cons x xs ih =>
    rw [rsplit] at h
    split at h
    next b a hxs =>
      cases h
      rw [cons_append, ← ih hxs]
    next =>
      split_ifs at h with hx
      cases h
      rw [hx, nil_append]

lemma rsplit_none (h : c ∉ text) : rsplit c text = none := by
  induction text with
  | nil => rfl
  | cons x xs ih =>
    rw [mem_cons, not_or] at h
    rw [rsplit, ih h.2]
    exact if_neg (Ne.symm h.1)

lemma rsplit_append {after : List Char} (h : c ∉ after) (before : List Char) :
    rsplit c (before ++ c :: after) = some (before, after) := by
  induction before with
  | nil => simp [rsplit, rsplit_none h]
  | cons x xs ih => rw [cons_append, rsplit, ih]

def Param.element (p : Param) : Option Param :=
  if p.ty.getLast? = some ']' ∧ p.components.isEmpty = true then
    match rsplit '[' p.ty with
    | some (base, _) => if base.isEmpty then none else some ⟨[], base, [], none⟩
    | none => none
  else none

def Param.children (p : Param) : List Param :=
  match p.element with
  | some element => [element]
  | none => p.components

lemma Param.element_eq_some {e : Param} (h : p.element = some e) :
    ∃ base size, p.ty = base ++ '[' :: (size ++ [']']) ∧ p.components = [] ∧
      e = ⟨[], base, [], none⟩ := by
  unfold element at h
  split_ifs at h with hl
  split at h
  next base after hs =>
    split_ifs at h
    cases h
    have hty := rsplit_eq_some hs
    have ha : after.getLast? = some ']' := by
      have hend := hl.1
      rw [hty, getLast?_append, getLast?_cons] at hend
      rcases hr : after.getLast? with _ | c
      · rw [hr, getD_none, some_or] at hend
        exact absurd hend (by decide)
      rw [hr] at hend
      simpa using hend
    obtain ⟨size, hsi⟩ := getLast?_eq_some_iff.mp ha
    exact ⟨base, size, by rw [hty, hsi], isEmpty_iff.mp hl.2, rfl⟩
  next => cases h

lemma sizeOf_append (before after : List Char) :
    sizeOf (before ++ after) + 1 = sizeOf before + sizeOf after := by
  induction before with
  | nil => simp [Nat.add_comm]
  | cons x xs ih =>
    simp only [cons_append, cons.sizeOf_spec]
    omega

lemma Param.sizeOf_children (p : Param) : sizeOf p.children < sizeOf p := by
  unfold children
  split
  next e he =>
    obtain ⟨base, size, hty, -, rfl⟩ := element_eq_some he
    have hs := sizeOf_append base ('[' :: (size ++ [']']))
    have hs' := sizeOf_append size [']']
    obtain ⟨name, ty, components, internalType⟩ := p
    obtain rfl : ty = _ := hty
    have hn : 0 < sizeOf name := by cases name <;> simp
    have hit : 0 < sizeOf internalType := by cases internalType <;> simp
    have hc : 0 < sizeOf components := by cases components <;> simp
    have hb : 0 < sizeOf '[' := by simp
    have hem : 0 < sizeOf size := by cases size <;> simp
    simp only [Param.mk.sizeOf_spec, cons.sizeOf_spec, nil.sizeOf_spec,
      none.sizeOf_spec] at *
    omega
  next =>
    obtain ⟨name, ty, components, internalType⟩ := p
    simp only [Param.mk.sizeOf_spec]
    omega

def basicKinds : List (List Char × UInt8) :=
  [("bool".toList, 1), ("uint8".toList, 2), ("int8".toList, 3), ("uint16".toList, 4),
    ("int16".toList, 5), ("uint32".toList, 6), ("int32".toList, 7), ("uint64".toList, 8),
    ("int64".toList, 9), ("uint128".toList, 10), ("int128".toList, 11), ("uint256".toList, 12),
    ("uint".toList, 12), ("int256".toList, 13), ("int".toList, 13), ("address".toList, 14),
    ("bytes32".toList, 15), ("string".toList, 17), ("bytes".toList, 18)]

def sizeAfter (start ty : List Char) : Option ℕ :=
  if start.isPrefixOf ty then parseUnsigned 65535 ((ty.drop start.length).map Char.toNat)
  else none

/-- The kind of an integer of the given number of bits: `first` for eight bits, and every second
kind after it for the next width. -/
def integerKind (first : UInt8) (bits : ℕ) : Option UInt8 :=
  match bits with
  | 8 => some first
  | 16 => some (first + 2)
  | 32 => some (first + 4)
  | 64 => some (first + 6)
  | 128 => some (first + 8)
  | 256 => some (first + 10)
  | _ => none

variable (ty : List Char)

def parseElementary : Except String (UInt8 × ℕ) :=
  match basicKinds.lookup ty with
  | some kind => .ok (kind, 0)
  | none =>
    match (sizeAfter "bytes".toList ty).filter fun size => decide (1 ≤ size ∧ size ≤ 32) with
    | some size => .ok (if size = 32 then (15, 0) else (16, size))
    | none =>
      match sizeAfter "uint".toList ty with
      | some bits =>
        (okOr (integerKind 2 bits) ("unsupported uint size: uint" ++ toString bits)).map (·, 0)
      | none =>
        match sizeAfter "int".toList ty with
        | some bits =>
          (okOr (integerKind 3 bits) ("unsupported int size: int" ++ toString bits)).map (·, 0)
        | none => .error ("unsupported Solidity type: '" ++ String.ofList ty ++ "'")

def arraySize : Option (List Char) :=
  if ty.getLast? = some ']' then (rsplit '[' ty).map fun s => s.2.dropLast else none

def parseSolidityType : Except String (UInt8 × ℕ) :=
  let ty := trim ty
  match arraySize ty with
  | some [] => .ok (21, 0)
  | some size =>
    (okOr (parseUnsigned 65535 (size.map Char.toNat))
      ("invalid array size in type '" ++ String.ofList ty ++ "'")).map (20, ·)
  | none => if ty = "tuple".toList then .ok (22, 0) else parseElementary ty

def compactLengthSize (len : ℕ) : ℕ :=
  if len < 0x80 then 1 else if len < 0x4000 then 2 else if len < 0x200000 then 3 else 4

mutual

def calculateFieldSize (p : Param) : ℕ :=
  let nameLen := (utf8 p.name).length
  5 + compactLengthSize nameLen + nameLen + calculateFieldSizes p.children
termination_by sizeOf p
decreasing_by exact p.sizeOf_children

def calculateFieldSizes : List Param → ℕ
  | [] => 0
  | p :: ps => calculateFieldSize p + calculateFieldSizes ps
termination_by ps => sizeOf ps

end

def u16Bytes (n : ℕ) : Bytes := [UInt8.ofNat (n >>> 8), UInt8.ofNat (n &&& 0xFF)]

def compactLength (len : ℕ) : Bytes :=
  if len < 0x80 then [UInt8.ofNat len]
  else if len < 0x4000 then [UInt8.ofNat (0x80 ||| len >>> 8), UInt8.ofNat (len &&& 0xFF)]
  else if len < 0x200000 then
    [UInt8.ofNat (0xC0 ||| len >>> 16), UInt8.ofNat (len >>> 8 &&& 0xFF), UInt8.ofNat (len &&& 0xFF)]
  else
    [UInt8.ofNat (0xE0 ||| len >>> 24), UInt8.ofNat (len >>> 16 &&& 0xFF),
      UInt8.ofNat (len >>> 8 &&& 0xFF), UInt8.ofNat (len &&& 0xFF)]

def compactString (text : List Char) : Bytes :=
  compactLength (utf8 text).length ++ utf8 text

def fieldHeader (kind : UInt8) (arrayLength childCount : ℕ) : Bytes :=
  kind :: (u16Bytes arrayLength ++ u16Bytes childCount)

structure Writer where
  buffer : Bytes
  cursor : ℕ

def Writer.write (bytes : Bytes) (w : Writer) : Outcome String Writer :=
  if w.cursor + bytes.length ≤ w.buffer.length then
    .ok ⟨w.buffer.take w.cursor ++ bytes ++ w.buffer.drop (w.cursor + bytes.length),
      w.cursor + bytes.length⟩
  else .error (.panicked "index out of bounds")

def writeCompactString (text : List Char) (w : Writer) : Outcome String Writer := do
  let w ← w.write (compactLength (utf8 text).length)
  w.write (utf8 text)

def Param.writtenChildren (p : Param) (kind : UInt8) : List Param :=
  if kind = 20 ∨ kind = 21 then p.children else p.components

lemma Param.sizeOf_writtenChildren (p : Param) (kind : UInt8) :
    sizeOf (p.writtenChildren kind) < sizeOf p := by
  unfold writtenChildren
  split_ifs
  · exact p.sizeOf_children
  · obtain ⟨name, ty, comps, ity⟩ := p
    simp only [Param.mk.sizeOf_spec]
    omega

mutual

def writeField (p : Param) (w : Writer) : Outcome String Writer := do
  let (kind, arrayLength) ← orErr (parseSolidityType p.ty)
  let childCount := (p.writtenChildren kind).length
  orErr (rejectIf (childCount > 65535) "field has too many children (max 65535)")
  let w ← w.write (fieldHeader kind arrayLength childCount)
  let w ← writeCompactString p.name w
  writeFields (p.writtenChildren kind) w
termination_by sizeOf p
decreasing_by exact p.sizeOf_writtenChildren _

def writeFields (ps : List Param) (w : Writer) : Outcome String Writer :=
  match ps with
  | [] => .ok w
  | p :: ps => do
    let w ← writeField p w
    writeFields ps w
termination_by sizeOf ps

end

def encodeSchema (params : List Param) : Outcome String Bytes :=
  if params.isEmpty then .ok []
  else do
    let fieldCount := params.length
    orErr (rejectIf (fieldCount > 65535) "schema has too many fields (max 65535)")
    let totalSize := 1 + 2 + calculateFieldSizes params
    let w ← Writer.write (2 :: u16Bytes fieldCount) ⟨List.replicate totalSize 0, 0⟩
    let w ← writeFields params w
    .ok w.buffer

mutual

def fieldBytes (p : Param) : Except String Bytes := do
  let (kind, arrayLength) ← parseSolidityType p.ty
  rejectIf (p.children.length > 65535) "field has too many children (max 65535)"
  let below ← fieldsBytes p.children
  .ok (fieldHeader kind arrayLength p.children.length ++ compactString p.name ++ below)
termination_by sizeOf p
decreasing_by exact p.sizeOf_children

def fieldsBytes : List Param → Except String Bytes
  | [] => .ok []
  | p :: ps => do
    let bytes ← fieldBytes p
    let below ← fieldsBytes ps
    .ok (bytes ++ below)
termination_by ps => sizeOf ps

end

lemma rsplit_isSome (h : c ∈ text) : ∃ s, rsplit c text = some s := by
  induction text with
  | nil => cases h
  | cons x xs ih =>
    rw [rsplit]
    cases hxs : rsplit c xs with
    | some s => exact ⟨_, rfl⟩
    | none =>
      rcases mem_cons.mp h with rfl | hmem
      · exact ⟨_, if_pos rfl⟩
      · obtain ⟨s, hs⟩ := ih hmem
        rw [hs] at hxs
        cases hxs

lemma trim_bracketed (base size : List Char) :
    ∃ base', trim (base ++ '[' :: (size ++ [']'])) = base' ++ '[' :: (size ++ [']']) := by
  have hd : ∃ base', (base ++ '[' :: (size ++ [']'])).dropWhile isWhitespace
      = base' ++ '[' :: (size ++ [']']) := by
    rw [dropWhile_append]
    split_ifs
    · exact ⟨[], dropWhile_cons_of_neg (by decide)⟩
    · exact ⟨_, rfl⟩
  obtain ⟨base', hb⟩ := hd
  refine ⟨base', ?_⟩
  have hl : (base' ++ '[' :: (size ++ [']'])).reverse
      = ']' :: (base' ++ '[' :: size).reverse := by simp
  rw [trim, hb, hl, dropWhile_cons_of_neg (by decide), ← hl, reverse_reverse]

lemma arraySize_bracketed (base size : List Char) :
    ∃ s, arraySize (base ++ '[' :: (size ++ [']'])) = some s := by
  have hmem : '[' ∈ base ++ '[' :: (size ++ [']']) := by simp
  obtain ⟨s, hs⟩ := rsplit_isSome hmem
  have hl : (base ++ '[' :: (size ++ [']'])).getLast? = some ']' := by
    rw [← cons_append, ← append_assoc, getLast?_concat]
  exact ⟨s.2.dropLast, by rw [arraySize, if_pos hl, hs, map_some]⟩

lemma kind_of_arraySize {ty size : List Char} {kind : UInt8} {n : ℕ}
    (hs : arraySize (trim ty) = some size) (h : parseSolidityType ty = .ok (kind, n)) :
    kind = 20 ∨ kind = 21 := by
  simp only [parseSolidityType, hs] at h
  split at h
  next => exact .inr (Prod.mk.inj (ok.inj h)).1.symm
  next =>
    obtain ⟨m, -, hm⟩ := exceptMap_eq_ok.mp h
    exact .inl (Prod.mk.inj hm).1.symm
  next heq => cases heq

lemma Param.writtenChildren_eq {kind : UInt8} {n : ℕ} (h : parseSolidityType p.ty = .ok (kind, n)) :
    p.writtenChildren kind = p.children := by
  unfold writtenChildren
  split_ifs with hk
  · rfl
  unfold children
  split
  next e he =>
    -- a field with an element is an array
    obtain ⟨base, size, hty, -, -⟩ := element_eq_some he
    obtain ⟨base', ht⟩ := trim_bracketed base size
    obtain ⟨s, hs⟩ := arraySize_bracketed base' size
    rw [← ht, ← hty] at hs
    exact absurd (kind_of_arraySize hs h) hk
  next => rfl

lemma length_compactLength (len : ℕ) : (compactLength len).length = compactLengthSize len := by
  unfold compactLength compactLengthSize
  split_ifs <;> rfl

lemma fieldBytes_eq_ok (h : fieldBytes p = .ok bytes) :
    ∃ kind n below, parseSolidityType p.ty = .ok (kind, n) ∧ p.children.length ≤ 65535 ∧
      fieldsBytes p.children = .ok below ∧
      bytes = fieldHeader kind n p.children.length ++ compactString p.name ++ below := by
  rw [fieldBytes] at h
  obtain ⟨⟨kind, n⟩, hp, h⟩ := bind_eq_ok.mp h
  obtain ⟨hc, h⟩ := unit_bind_eq_ok.mp h
  obtain ⟨below, hb, h⟩ := bind_eq_ok.mp h
  cases h
  exact ⟨kind, n, below, hp, not_lt.mp (rejectIf_eq_ok.mp hc), hb, rfl⟩

lemma fieldsBytes_cons_eq_ok {ps : List Param} (h : fieldsBytes (p :: ps) = .ok bytes) :
    ∃ first others, fieldBytes p = .ok first ∧ fieldsBytes ps = .ok others ∧
      bytes = first ++ others := by
  rw [fieldsBytes] at h
  obtain ⟨first, hf, h⟩ := bind_eq_ok.mp h
  obtain ⟨others, ho, h⟩ := bind_eq_ok.mp h
  cases h
  exact ⟨first, others, hf, ho, rfl⟩

mutual

lemma length_fieldBytes (p : Param) {bytes : Bytes} (h : fieldBytes p = .ok bytes) :
    bytes.length = calculateFieldSize p := by
  obtain ⟨kind, n, below, -, -, hb, rfl⟩ := fieldBytes_eq_ok h
  rw [calculateFieldSize, ← length_fieldsBytes p.children hb]
  simp only [length_append, compactString, length_compactLength, fieldHeader, u16Bytes,
    length_cons, length_nil]
  omega
termination_by sizeOf p
decreasing_by exact p.sizeOf_children

lemma length_fieldsBytes (ps : List Param) {bytes : Bytes} (h : fieldsBytes ps = .ok bytes) :
    bytes.length = calculateFieldSizes ps := by
  cases ps with
  | nil =>
    rw [fieldsBytes] at h
    cases h
    rw [calculateFieldSizes, length_nil]
  | cons p ps =>
    obtain ⟨first, below, hf, hb, rfl⟩ := fieldsBytes_cons_eq_ok h
    rw [calculateFieldSizes, length_append, length_fieldBytes p hf, length_fieldsBytes ps hb]
termination_by sizeOf ps

end

def Writer.after (done rest : Bytes) : Writer := ⟨done ++ rest, done.length⟩

lemma Writer.write_after (done : Bytes) {rest : Bytes} (h : bytes.length ≤ rest.length) :
    (Writer.after done rest).write bytes
      = .ok (Writer.after (done ++ bytes) (rest.drop bytes.length)) := by
  have hr : (after done rest).cursor + bytes.length ≤ (after done rest).buffer.length := by
    simp only [after, length_append]
    omega
  rw [write, if_pos hr]
  simp [after, drop_length_add_append]

lemma writeCompactString_after (done : Bytes) {rest : Bytes}
    (h : (compactString text).length ≤ rest.length) :
    writeCompactString text (Writer.after done rest)
      = .ok (Writer.after (done ++ compactString text) (rest.drop (compactString text).length)) := by
  rw [compactString, length_append] at *
  rw [writeCompactString, Writer.write_after done (by omega), ok_bind,
    Writer.write_after _ (by rw [length_drop]; omega), append_assoc, drop_drop]

def Writer.advance (done rest : Bytes) (bytes : Except String Bytes) : Outcome String Writer :=
  (orErr bytes).map fun bytes => Writer.after (done ++ bytes) (rest.drop bytes.length)

mutual

lemma writeField_after (p : Param) (done : Bytes) {rest : Bytes}
    (h : calculateFieldSize p ≤ rest.length) :
    writeField p (Writer.after done rest) = Writer.advance done rest (fieldBytes p) := by
  rw [writeField, fieldBytes]
  rcases hty : parseSolidityType p.ty with e | kind
  · rfl
  obtain ⟨kind, arrayLength⟩ := kind
  simp only [orErr, ok_bind, Param.writtenChildren_eq hty]
  by_cases hc : p.children.length > 65535
  · simp only [rejectIf, if_pos hc]
    rfl
  have hh : (fieldHeader kind arrayLength p.children.length).length = 5 := rfl
  have hn : (compactString p.name).length
      = compactLengthSize (utf8 p.name).length + (utf8 p.name).length := by
    rw [compactString, length_append, length_compactLength]
  rw [calculateFieldSize] at h
  simp only [rejectIf, if_neg hc, ok_bind]
  rw [Writer.write_after done (by omega), ok_bind,
    writeCompactString_after _ (by rw [length_drop]; omega), ok_bind,
    writeFields_after p.children _ (by rw [length_drop, length_drop]; omega)]
  rcases hb : fieldsBytes p.children with e | below
  · rfl
  simp [Writer.advance, orErr, Except.map, ok_bind, drop_drop, Nat.add_assoc]
termination_by sizeOf p
decreasing_by exact p.sizeOf_children

lemma writeFields_after (ps : List Param) (done : Bytes) {rest : Bytes}
    (h : calculateFieldSizes ps ≤ rest.length) :
    writeFields ps (Writer.after done rest) = Writer.advance done rest (fieldsBytes ps) := by
  cases ps with
  | nil =>
    rw [writeFields, fieldsBytes]
    simp [Writer.advance, orErr, Except.map]
  | cons p ps =>
    rw [calculateFieldSizes] at h
    rw [writeFields, fieldsBytes, writeField_after p done (by omega)]
    rcases hp : fieldBytes p with e | bytes
    · rfl
    have hl := length_fieldBytes p hp
    have hr : calculateFieldSizes ps ≤ (rest.drop bytes.length).length := by
      rw [length_drop]
      omega
    simp only [Writer.advance, orErr, Except.map, ok_bind]
    rw [writeFields_after ps (done ++ bytes) hr]
    rcases hb : fieldsBytes ps with e | below
    · rfl
    simp [Writer.advance, orErr, Except.map, ok_bind, drop_drop]
termination_by sizeOf ps

end

/-- **Encoding.** A schema is encoded as a version byte, the number of its fields and their bytes,
or refused with an error. The encoder never panics. -/
theorem encodeSchema_eq (params : List Param) : encodeSchema params = if params.isEmpty then .ok []
      else if params.length > 65535 then
        .error (.err "schema has too many fields (max 65535)")
      else (orErr (fieldsBytes params)).map fun bytes => 2 :: (u16Bytes params.length ++ bytes) := by
  rw [encodeSchema]
  split_ifs with he hc
  · rfl
  · simp only [rejectIf, if_pos hc]
    rfl
  -- the buffer starts as zeros, with room for the three bytes and the fields
  have hs : (⟨replicate (1 + 2 + calculateFieldSizes params) 0, 0⟩ : Writer)
      = Writer.after [] (replicate (1 + 2 + calculateFieldSizes params) 0) := rfl
  have hv : (2 :: u16Bytes params.length).length = 3 := rfl
  simp only [rejectIf, if_neg hc, orErr, ok_bind, hs]
  rw [Writer.write_after [] (by rw [length_replicate]; omega), ok_bind,
    writeFields_after params _ (by rw [length_drop, length_replicate]; omega)]
  rcases hb : fieldsBytes params with e | bytes
  · rfl
  have hl := length_fieldsBytes params hb
  simp only [Writer.advance, Writer.after, orErr, Except.map, ok_bind, drop_replicate,
    nil_append, hv, hl]
  simp

/-! ## Reading a schema

The job commands read a stored schema back: `decodeTlvSchema` for the binary format, and
`SchemaParam.fromParam` for parameters in JSON. -/

inductive DynSolType where
  | bool
  | int (bits : ℕ)
  | uint (bits : ℕ)
  | fixedBytes (size : ℕ)
  | address
  | function
  | bytes
  | string
  | array (ty : DynSolType)
  | fixedArray (ty : DynSolType) (size : ℕ)
  | tuple (types : List DynSolType)
  | customStruct (name : List Char) (propNames : List (List Char)) (types : List DynSolType)

structure SchemaParam where
  name : Option (List Char)
  ty : DynSolType
  components : List SchemaParam

def nameOption (text : List Char) : Option (List Char) := if text = [] then none else some text

lemma nameOption_injective {s t : List Char} (h : nameOption s = nameOption t) : s = t := by
  unfold nameOption at h
  split_ifs at h with hs ht
  · rw [hs, ht]
  · exact Option.some.inj h

mutual

def SchemaParam.fromParam (resolve : Param → Except String DynSolType) :
    Param → Except String SchemaParam
  | ⟨name, ty, components, internalType⟩ => do
    let resolved ← (resolve ⟨name, ty, components, internalType⟩).mapError fun e =>
      "failed to parse ABI type `" ++ String.ofList ty ++ "`: " ++ e
    let components ← SchemaParam.fromParams resolve components
    .ok ⟨nameOption (trim name), resolved, components⟩

def SchemaParam.fromParams (resolve : Param → Except String DynSolType) :
    List Param → Except String (List SchemaParam)
  | [] => .ok []
  | p :: ps => do
    let first ← SchemaParam.fromParam resolve p
    let others ← SchemaParam.fromParams resolve ps
    .ok (first :: others)

end

def u16FromBe (high low : UInt8) : ℕ := high.toNat * 256 + low.toNat

def readCompactLength : Bytes → Except String (ℕ × Bytes)
  | [] => .error "compact length truncated"
  | byte :: rest =>
    let first := byte.toNat
    if first &&& 0x80 = 0 then .ok (first, rest)
    else if first &&& 0xC0 = 0x80 then
      match rest with
      | b1 :: rest => .ok ((first &&& 0x3F) <<< 8 ||| b1.toNat, rest)
      | _ => .error "compact length truncated"
    else if first &&& 0xE0 = 0xC0 then
      match rest with
      | b1 :: b2 :: rest =>
        .ok ((first &&& 0x1F) <<< 16 ||| b1.toNat <<< 8 ||| b2.toNat, rest)
      | _ => .error "compact length truncated"
    else
      match rest with
      | b1 :: b2 :: b3 :: rest =>
        .ok ((first &&& 0x0F) <<< 24 ||| b1.toNat <<< 16 ||| b2.toNat <<< 8 ||| b3.toNat, rest)
      | _ => .error "compact length truncated"

variable {bytes rest : Bytes} {idx : ℕ} {decode : Bytes → ℕ → Except String (SchemaParam × Bytes)}

lemma length_of_readCompactLength {len : ℕ} (h : readCompactLength bytes = .ok (len, rest)) :
    rest.length < bytes.length := by
  cases bytes with
  | nil => cases h
  | cons b bytes =>
    simp only [readCompactLength] at h
    split_ifs at h
    · cases h
      simp
    all_goals
      split at h
      · cases h
        simp only [length_cons]
        omega
      · cases h

def tlvKindToDynSolType (kind : UInt8) (arrayLength : ℕ) (components : List SchemaParam) :
    Except String DynSolType :=
  let element := match components with
    | [] => DynSolType.bytes
    | first :: _ => first.ty
  match kind.toNat with
  | 0 => .ok (.tuple [])
  | 1 => .ok .bool
  | 2 => .ok (.uint 8)
  | 3 => .ok (.int 8)
  | 4 => .ok (.uint 16)
  | 5 => .ok (.int 16)
  | 6 => .ok (.uint 32)
  | 7 => .ok (.int 32)
  | 8 => .ok (.uint 64)
  | 9 => .ok (.int 64)
  | 10 => .ok (.uint 128)
  | 11 => .ok (.int 128)
  | 12 => .ok (.uint 256)
  | 13 => .ok (.int 256)
  | 14 => .ok .address
  | 15 => .ok (.fixedBytes 32)
  | 16 => .ok (.fixedBytes arrayLength)
  | 17 => .ok .string
  | 18 => .ok .bytes
  | 19 => .ok element
  | 20 => .ok (.fixedArray element arrayLength)
  | 21 => .ok (.array element)
  | 22 => .ok (.tuple (components.map SchemaParam.ty))
  | n => .error ("unknown BlueprintFieldKind: " ++ toString n)

def decodeFieldsWith (decode : Bytes → ℕ → Except String (SchemaParam × Bytes)) :
    ℕ → ℕ → Bytes → Except String (List SchemaParam × Bytes)
  | 0, _, bytes => .ok ([], bytes)
  | count + 1, idx, bytes => do
    let (p, bytes) ← decode bytes idx
    let (ps, bytes) ← decodeFieldsWith decode count (idx + 1) bytes
    .ok (p :: ps, bytes)

def decodeTlvField : ℕ → Bytes → ℕ → Except String (SchemaParam × Bytes)
  | depth + 1, kind :: l1 :: l0 :: c1 :: c0 :: bytes, idx => do
    let (nameLen, bytes) ← readCompactLength bytes
    rejectIf (bytes.length < nameLen) ("TLV field " ++ toString idx ++ " name truncated")
    let (components, rest) ← decodeFieldsWith (decodeTlvField depth) (u16FromBe c1 c0) 0
      (bytes.drop nameLen)
    let ty ← tlvKindToDynSolType kind (u16FromBe l1 l0) components
    .ok (⟨nameOption (fromUtf8Lossy (bytes.take nameLen)), ty, components⟩, rest)
  | _, _, idx => .error ("TLV field " ++ toString idx ++ " truncated")

def readTlvSchema (bytes : Bytes) : Except String (List SchemaParam × Bytes) :=
  match bytes with
  | version :: c1 :: c0 :: fields =>
    if version = 2 then
      decodeFieldsWith (decodeTlvField fields.length) (u16FromBe c1 c0) 0 fields
    else
      .error ("Invalid schema version: expected 0x02, got 0x"
        ++ String.ofList (hexEncode [version]))
  | _ => .error "TLV schema too short"

def decodeTlvSchema (bytes : Bytes) : Except String (List SchemaParam) :=
  (readTlvSchema bytes).map Prod.fst

variable {depth : ℕ} {p : SchemaParam} {ps : List SchemaParam}

lemma decodeTlvField_eq_ok (h : decodeTlvField depth bytes idx = .ok (p, rest)) :
    ∃ d kind l1 l0 c1 c0 tail nameLen body,
      depth = d + 1 ∧ bytes = kind :: l1 :: l0 :: c1 :: c0 :: tail ∧
      readCompactLength tail = .ok (nameLen, body) ∧ nameLen ≤ body.length ∧
      p.name = nameOption (fromUtf8Lossy (body.take nameLen)) ∧
      decodeFieldsWith (decodeTlvField d) (u16FromBe c1 c0) 0 (body.drop nameLen)
        = .ok (p.components, rest) ∧
      tlvKindToDynSolType kind (u16FromBe l1 l0) p.components = .ok p.ty := by
  unfold decodeTlvField at h
  split at h
  next d kind l1 l0 c1 c0 tail =>
    obtain ⟨⟨nameLen, body⟩, hn, h⟩ := bind_eq_ok.mp h
    obtain ⟨hlen, h⟩ := unit_bind_eq_ok.mp h
    obtain ⟨⟨comps, rest'⟩, hc, h⟩ := bind_eq_ok.mp h
    obtain ⟨ty, hty, h⟩ := bind_eq_ok.mp h
    cases h
    exact ⟨d, kind, l1, l0, c1, c0, tail, nameLen, body, rfl, rfl, hn,
      not_lt.mp (rejectIf_eq_ok.mp hlen), rfl, hc, hty⟩
  next => cases h

lemma decodeFieldsWith_succ_eq_ok {cnt : ℕ}
    (h : decodeFieldsWith decode (cnt + 1) idx bytes = .ok (ps, rest)) :
    ∃ p ps' middle, ps = p :: ps' ∧ decode bytes idx = .ok (p, middle) ∧
      decodeFieldsWith decode cnt (idx + 1) middle = .ok (ps', rest) := by
  obtain ⟨⟨p, middle⟩, hp, h⟩ := bind_eq_ok.mp h
  obtain ⟨⟨ps', rest'⟩, hps, h⟩ := bind_eq_ok.mp h
  cases h
  exact ⟨p, ps', middle, rfl, hp, hps⟩

lemma of_decodeFieldsWith
    (hd : ∀ bytes idx p rest, decode bytes idx = .ok (p, rest) → rest.length ≤ bytes.length)
    {cnt : ℕ} (h : decodeFieldsWith decode cnt idx bytes = .ok (ps, rest)) :
    ps.length = cnt ∧ rest.length ≤ bytes.length := by
  induction cnt generalizing idx bytes ps with
  | zero =>
    cases h
    exact ⟨rfl, le_refl _⟩
  | succ cnt ih =>
    obtain ⟨p, ps', middle, rfl, hp, hps⟩ := decodeFieldsWith_succ_eq_ok h
    have hf := hd _ _ _ _ hp
    obtain ⟨hc, hr⟩ := ih hps
    exact ⟨by rw [length_cons, hc], le_trans hr hf⟩

lemma length_of_decodeTlvField (h : decodeTlvField depth bytes idx = .ok (p, rest)) :
    rest.length + 6 ≤ bytes.length := by
  induction depth generalizing bytes idx p rest with
  | zero =>
    obtain ⟨d, _, _, _, _, _, _, _, _, hde, -⟩ := decodeTlvField_eq_ok h
    cases hde
  | succ depth ih =>
    obtain ⟨d, kind, l1, l0, c1, c0, tail, nameLen, body, hde, rfl, hn, -, -, hf, -⟩ :=
      decodeTlvField_eq_ok h
    cases hde
    have hb := length_of_readCompactLength hn
    have hr := (of_decodeFieldsWith (fun _ _ _ _ hd => by have := ih hd; omega) hf).2
    rw [length_drop] at hr
    simp only [length_cons]
    omega

end Gadget.Cli
