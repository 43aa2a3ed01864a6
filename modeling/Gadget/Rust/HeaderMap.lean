import Gadget.Rust.HashMap
import Gadget.Rust.Text

/-!
# Paths and headers of requests

A path is its bytes. `percentDecode` is the decoding that the `Path` extractor of the web
framework applies to the segments it has matched; a route itself is matched on the bytes as
they are.

A header map has every name, in lower case, with its values in order. A name that is there has at
least one value. Lookups are case-insensitive, `insert` replaces all the values of a name.
-/

namespace Gadget.Rust

def asciiByte (c : Char) : UInt8 := UInt8.ofNat c.toNat

def pathSegments (path : Bytes) : List Bytes := path.splitOn (asciiByte '/')

def hexByteValue (b : UInt8) : Option ℕ := hexValue (Char.ofNat b.toNat)

def percentDecode : Bytes → Bytes
  | [] => []
  | [b] => [b]
  | [b, c] => [b, c]
  | b :: h :: l :: rest =>
    if b = asciiByte '%' then
      match hexByteValue h, hexByteValue l with
      | some x, some y => UInt8.ofNat (16 * x + y) :: percentDecode rest
      | _, _ => b :: percentDecode (h :: l :: rest)
    else b :: percentDecode (h :: l :: rest)

lemma percentDecode_eq_self {bytes : Bytes} (h : asciiByte '%' ∉ bytes) :
    percentDecode bytes = bytes := by
  fun_induction percentDecode bytes with
  | case1 => rfl
  | case2 => rfl
  | case3 => rfl
  | case4 => exact absurd List.mem_cons_self h
  | case5 => exact absurd List.mem_cons_self h
  | case6 b hi lo rest hb ih => rw [ih (fun hmem => h (List.mem_cons_of_mem _ hmem))]

def parseSegment (max : ℕ) (segment : Bytes) : Option ℕ :=
  parseUnsigned max (segment.map UInt8.toNat)

lemma parseSegment_percent {max : ℕ} {segment : Bytes} (h : asciiByte '%' ∈ segment) :
    parseSegment max segment = none := by
  by_contra hne
  obtain ⟨n, hn⟩ := Option.ne_none_iff_exists'.mp hne
  have hc : (asciiByte '%').toNat ∈ segment.map UInt8.toNat := List.mem_map_of_mem h
  have := parseUnsigned_mem hn _ hc
  exact absurd this (by decide)

structure HeaderValues where
  first : Bytes
  more : List Bytes

abbrev HeaderMap := HashMap (List Char) HeaderValues

variable (name : List Char)

def lowerName : List Char := name.map Char.toLower

namespace HeaderMap

variable (headers : HeaderMap)

def valuesOf (name : List Char) : List Bytes :=
  match headers.lookup name with
  | none => []
  | some values => values.first :: values.more

def get (name : List Char) : Option Bytes :=
  (headers.lookup (lowerName name)).map HeaderValues.first

def set (name : List Char) (value : Bytes) : HeaderMap :=
  headers.insert (lowerName name) ⟨value, []⟩

def removeWhere (test : List Char → Bool) : HeaderMap :=
  HashMap.retain headers fun name _ => !test name

lemma valuesOf_set (name other : List Char) (val : Bytes) :
    (headers.set name val).valuesOf other =
      if other = lowerName name then [val] else headers.valuesOf other := by
  rw [valuesOf, set, HashMap.lookup_insert_eq]
  split_ifs with h <;> rfl

lemma valuesOf_removeWhere (test : List Char → Bool) (name : List Char) :
    (headers.removeWhere test).valuesOf name = if test name then [] else headers.valuesOf name := by
  rw [valuesOf, removeWhere, HashMap.lookup_retain, valuesOf]
  rcases headers.lookup name with _ | values
  · simp
  rcases h : test name with _ | _ <;> simp [Option.filter]

end HeaderMap

def headerText (value : Bytes) : Option (List Char) :=
  if value.all fun b => decide (32 ≤ b.toNat ∧ b.toNat < 127 ∨ b.toNat = 9) then
    some (value.map fun b => Char.ofNat b.toNat)
  else none

def headerString (headers : HeaderMap) (name : List Char) : Option (List Char) :=
  (headers.get name).bind headerText

def isTokenChar (c : Char) : Bool := c.isAlphanum || "!#$%&'*+-.^_`|~".toList.contains c

def headerName (text : List Char) : Option (List Char) :=
  if text ≠ [] ∧ text.length < 2 ^ 16 ∧ text.all isTokenChar then some (lowerName text) else none

lemma headerName_eq_some {text name : List Char} : headerName text = some name ↔
      (text ≠ [] ∧ text.length < 2 ^ 16 ∧ text.all isTokenChar = true) ∧ lowerName text = name := by
  unfold headerName
  split_ifs with h
  · rw [Option.some.injEq]
    exact ⟨fun heq => ⟨h, heq⟩, fun heq => heq.2⟩
  · exact iff_of_false nofun fun heq => h heq.1

lemma toNat_of_isAlphanum {c : Char} (h : c.isAlphanum = true) : 48 ≤ c.toNat ∧ c.toNat ≤ 122 := by
  have hr : (decide (c.val ≥ 'A'.val ∧ c.val ≤ 'Z'.val) ||
      (decide (c.val ≥ 'a'.val) && decide (c.val ≤ 'z'.val)) ||
      (decide (c.val ≥ '0'.val) && decide (c.val ≤ '9'.val))) = true := h
  simp only [Bool.or_eq_true, Bool.and_eq_true, decide_eq_true_eq, ge_iff_le,
    UInt32.le_iff_toNat_le] at hr
  have hnat : c.toNat = c.val.toNat := rfl
  have hu : ('A'.val).toNat = 65 ∧ ('Z'.val).toNat = 90 := ⟨rfl, rfl⟩
  have hl : ('a'.val).toNat = 97 ∧ ('z'.val).toNat = 122 := ⟨rfl, rfl⟩
  have hd : ('0'.val).toNat = 48 ∧ ('9'.val).toNat = 57 := ⟨rfl, rfl⟩
  omega

lemma toNat_lt_of_isTokenChar {c : Char} (h : isTokenChar c = true) : c.toNat < 128 := by
  rw [isTokenChar, Bool.or_eq_true] at h
  obtain h | h := h
  · exact (toNat_of_isAlphanum h).2.trans_lt (by decide)
  · have hall : "!#$%&'*+-.^_`|~".toList.all (·.toNat < 128) = true := by decide
    exact of_decide_eq_true (List.all_eq_true.mp hall c (List.contains_iff_mem.mp h))

lemma toNat_toLower (c : Char) :
    c.toLower.toNat = if 65 ≤ c.toNat ∧ c.toNat ≤ 90 then c.toNat + 32 else c.toNat := by
  have hnat : c.toNat = c.val.toNat := rfl
  unfold Char.toLower
  split
  · rename_i h
    have hr : 65 ≤ c.toNat ∧ c.toNat ≤ 90 := h
    have hadd : (c.val + 32).toNat = c.val.toNat + 32 := by
      rw [UInt32.toNat_add]
      have hc : (32 : UInt32).toNat = 32 := rfl
      omega
    rw [if_pos hr]
    exact hadd
  · rename_i h
    have hr : ¬ (65 ≤ c.toNat ∧ c.toNat ≤ 90) := h
    rw [if_neg hr]

lemma lowerName_lowerName : lowerName (lowerName name) = lowerName name := by
  unfold lowerName
  rw [List.map_map]
  apply List.map_congr_left
  intro c _
  apply Char.toNat_inj.mp
  rw [Function.comp_apply, toNat_toLower c.toLower, toNat_toLower c]
  split_ifs <;> omega

lemma compare_lowerName : compare (lowerName name) name ≠ .lt := by
  induction name with
  | nil => decide
  | cons c name ih =>
    have hle : c.toNat ≤ c.toLower.toNat := by
      rw [toNat_toLower]
      split_ifs <;> omega
    have hch : compare c.toLower c ≠ .lt := by
      have hlt : ¬ c.toLower < c := Nat.not_lt.mpr hle
      show compareOfLessAndEq c.toLower c ≠ .lt
      rw [compareOfLessAndEq, if_neg hlt]
      split_ifs <;> decide
    rw [lowerName, List.map_cons, List.compare_cons_cons]
    cases hc : compare c.toLower c with
    | lt => exact absurd hc hch
    | eq => exact ih
    | gt => exact Ordering.noConfusion

end Gadget.Rust
