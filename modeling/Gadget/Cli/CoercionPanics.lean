import Gadget.Cli.JobValues

/-!
# Panics of the coercion

A schema may declare fixed bytes of any size up to `u16::MAX`, and the coercion copies the bytes of
such an argument into a word of 32. Nothing else in it can panic.
-/

namespace Gadget.Cli

open Rust

variable {W : JobText} {schema : SchemaParam} {α : Type}

/-- The argument is coerced to a value. -/
def Accepted (W : JobText) (value : Json) (schema : SchemaParam) : Prop :=
  ∃ v, coerceValue W value schema = .ok v

/-- The coercion gets to fixed bytes that are longer than a word: such an argument itself, or one within an
array or a tuple all of whose parts before it are accepted. -/
inductive Overruns (W : JobText) : Json → SchemaParam → Prop
  | bytes {value : Json} {schema : SchemaParam} {size : ℕ} {data : Bytes} (hty : schema.ty = .fixedBytes size)
      (hsize : 32 < size) (hdata : parseBytes value = .ok data) (hlen : data.length = size) :
      Overruns W value schema
  | item {before after : List Json} {item : Json} {schema : SchemaParam} {inner : DynSolType}
      (hty : schema.ty = .array inner ∨ schema.ty = .fixedArray inner (before ++ item :: after).length)
      (hbefore : ∀ b ∈ before, Accepted W b (schema.elementSchema inner))
      (h : Overruns W item (schema.elementSchema inner)) :
      Overruns W (.array (before ++ item :: after)) schema
  | field {before after : List Json} {item : Json} {schema s : SchemaParam} {types : List DynSolType}
      {pre post : List SchemaParam} (hty : schema.ty = .tuple types)
      (hcomponents : schema.tupleComponents = pre ++ s :: post)
      (hlen : (before ++ item :: after).length = schema.tupleComponents.length)
      (hbefore : List.Forall₂ (Accepted W) before pre) (h : Overruns W item s) :
      Overruns W (.array (before ++ item :: after)) schema
  | entry {entries : List (List Char × Json)} {value : Json} {name : List Char} {schema s : SchemaParam}
      {types : List DynSolType} {pre post : List SchemaParam} (hty : schema.ty = .tuple types)
      (hcomponents : schema.tupleComponents = pre ++ s :: post)
      (hbefore : ∀ p ∈ pre, ∃ name v, p.name = some name ∧ entries.lookup name = some v ∧ Accepted W v p)
      (hname : s.name = some name) (hvalue : entries.lookup name = some value) (h : Overruns W value s) :
      Overruns W (.object entries) schema

lemma noPanic_orElseErr (text : String → String) (x : Except String α) :
    NoPanic (orElseErr text x) := by
  cases x <;> trivial

variable (value : Json)

lemma noPanic_parseUint : NoPanic (parseUint value) := by
  unfold parseUint
  split
  · exact noPanic_orErr _
  · rw [parseUintFromStr]
    split <;> exact noPanic_orElseErr ..
  · trivial

lemma noPanic_parseInt : NoPanic (parseInt value) := by
  refine NoPanic.bind ?_ fun _ _ => trivial
  unfold integerOf
  split
  · exact noPanic_orErr _
  · rw [integerFromStr]
    split
    · exact (noPanic_orElseErr ..).bind fun _ _ => trivial
    · exact noPanic_orElseErr ..
  · trivial

lemma noPanic_parseBool : NoPanic (parseBool W value) := by
  unfold parseBool
  split
  · trivial
  · split <;> trivial
  · dsimp only
    split_ifs <;> trivial
  · trivial

lemma noPanic_parseAddress : NoPanic (parseAddress value) := by
  unfold parseAddress
  split
  · split
    · split_ifs <;> trivial
    · trivial
  · trivial

lemma noPanic_parseString : NoPanic (parseString value) := by
  unfold parseString
  split <;> trivial

lemma noPanic_byteItems (items : List Json) : NoPanic (byteItems items) := by
  induction items with
  | nil => trivial
  | cons item items ih =>
    cases item with
    | number n =>
      exact (noPanic_orErr _).bind fun _ _ => (noPanic_orErr _).bind fun _ _ =>
        ih.bind fun _ _ => trivial
    | _ => trivial

lemma noPanic_parseBytes : NoPanic (parseBytes value) := by
  unfold parseBytes
  split
  · rw [parseBytesFromStr]
    split
    · exact noPanic_orElseErr ..
    · trivial
  · exact noPanic_byteItems _
  · trivial

/-- Of the leaves only fixed bytes can panic, when they have their length and more than a word. -/
lemma noPanic_coerceLeaf_iff {value : Json} : NoPanic (coerceLeaf W value schema) ↔
    ∀ size data, schema.ty = .fixedBytes size → parseBytes value = .ok data → data.length = size →
      size ≤ 32 := by
  obtain ⟨name, ty, components⟩ := schema
  cases ty with
  | fixedBytes size =>
    constructor
    · rintro h _ data ⟨⟩ hdata hlen
      have hstep := (noPanic_bind_iff.mp h).2 data hdata
      have hword := (noPanic_bind_iff.mp hstep).2 () (orErr_eq_ok.mpr (rejectIf_eq_ok.mpr (by simp [hlen])))
      by_contra hsize
      rw [fixedWord, if_neg hsize] at hword
      exact hword
    · intro h
      refine (noPanic_parseBytes value).bind fun data hdata => (noPanic_orErr _).bind fun _ hok => ?_
      have hlen := not_not.mp (rejectIf_eq_ok.mp (orErr_eq_ok.mp hok))
      rw [fixedWord, if_pos (h size data rfl hdata hlen)]
      trivial
  | bool => exact iff_of_true ((noPanic_parseBool value).bind fun _ _ => trivial) nofun
  | uint => exact iff_of_true ((noPanic_parseUint value).bind fun _ _ => trivial) nofun
  | int => exact iff_of_true ((noPanic_parseInt value).bind fun _ _ => trivial) nofun
  | address => exact iff_of_true ((noPanic_parseAddress value).bind fun _ _ => trivial) nofun
  | string => exact iff_of_true ((noPanic_parseString value).bind fun _ _ => trivial) nofun
  | bytes => exact iff_of_true ((noPanic_parseBytes value).bind fun _ _ => trivial) nofun
  | function =>
    exact iff_of_true ((noPanic_parseBytes value).bind fun _ _ => (noPanic_orErr _).bind fun _ _ => trivial)
      nofun
  | array | fixedArray | tuple | customStruct => exact iff_of_true trivial nofun

section Parts

variable {items : List Json} {schemas : List SchemaParam} {entries : List (List Char × Json)}

/-- The items are coerced up to the first that is not accepted. -/
lemma noPanic_coerceItems_iff : NoPanic (coerceItems (coerceLeaf W) valueAssembly items schema) ↔
    ∀ before item after, items = before ++ item :: after → (∀ b ∈ before, Accepted W b schema) →
      NoPanic (coerceValue W item schema) := by
  induction items with
  | nil => exact iff_of_true trivial (by simp)
  | cons first rest ih =>
    rw [coerceItems, noPanic_bind_iff]
    constructor
    · rintro ⟨hf, hr⟩ before item after heq hbefore
      rcases before with _ | ⟨b, before⟩
      · cases heq
        exact hf
      · cases heq
        obtain ⟨hb, hbefore⟩ := List.forall_mem_cons.mp hbefore
        obtain ⟨v, hv⟩ := hb
        exact ih.mp (noPanic_bind_iff.mp (hr v hv)).1 before item after rfl hbefore
    · intro h
      refine ⟨h [] first rest rfl nofun, fun v hv => NoPanic.bind (ih.mpr ?_) fun _ _ => trivial⟩
      intro before item after heq hbefore
      exact h (first :: before) item after (by rw [heq]; rfl) (List.forall_mem_cons.mpr ⟨⟨v, hv⟩, hbefore⟩)

lemma noPanic_coerceFields_iff : NoPanic (coerceFields (coerceLeaf W) valueAssembly items schemas) ↔
    ∀ before item after pre s post, items = before ++ item :: after → schemas = pre ++ s :: post →
      List.Forall₂ (Accepted W) before pre → NoPanic (coerceValue W item s) := by
  induction items generalizing schemas with
  | nil => exact iff_of_true trivial (by simp)
  | cons first rest ih =>
    rcases schemas with _ | ⟨schema, schemas⟩
    · exact iff_of_true trivial (by simp)
    rw [coerceFields, noPanic_bind_iff]
    constructor
    · rintro ⟨hf, hr⟩ before item after pre s post heq hs hbefore
      cases hbefore with
      | nil =>
        cases heq
        cases hs
        exact hf
      | cons hb hbefore =>
        cases heq
        cases hs
        obtain ⟨v, hv⟩ := hb
        exact ih.mp (noPanic_bind_iff.mp (hr v hv)).1 _ item after _ s post rfl rfl hbefore
    · intro h
      refine ⟨h [] first rest [] schema schemas rfl rfl .nil,
        fun v hv => NoPanic.bind (ih.mpr ?_) fun _ _ => trivial⟩
      intro before item after pre s post heq hs hbefore
      exact h (first :: before) item after (schema :: pre) s post (by rw [heq]; rfl) (by rw [hs]; rfl)
        (.cons ⟨v, hv⟩ hbefore)

lemma coerceEntry_eq {name : List Char} {value : Json} (h : entries.lookup name = some value) :
    coerceEntry (coerceLeaf W) valueAssembly entries name schema = coerceValue W value schema := by
  induction entries with
  | nil => cases h
  | cons first rest ih =>
    obtain ⟨key, v⟩ := first
    rw [coerceEntry]
    split_ifs with hk
    · subst hk
      simp only [List.lookup_cons_self, Option.some.injEq] at h
      rw [h]
      rfl
    · rw [List.lookup_cons, beq_false_of_ne (Ne.symm hk)] at h
      exact ih h

lemma mem_of_lookup {name : List Char} {value : Json} (h : entries.lookup name = some value) :
    (name, value) ∈ entries := by
  induction entries with
  | nil => cases h
  | cons first rest ih =>
    obtain ⟨key, v⟩ := first
    rw [List.lookup_cons] at h
    split at h
    · rename_i hk
      cases h
      rw [eq_of_beq hk]
      exact List.mem_cons_self
    · exact List.mem_cons_of_mem _ (ih h)

lemma coerceEntry_of_none {name : List Char} (h : entries.lookup name = none) :
    ∃ e, coerceEntry (coerceLeaf W) valueAssembly entries name schema = .error (.err e) := by
  induction entries with
  | nil => exact ⟨_, rfl⟩
  | cons first rest ih =>
    obtain ⟨key, v⟩ := first
    rw [coerceEntry]
    split_ifs with hk
    · subst hk
      simp at h
    · rw [List.lookup_cons, beq_false_of_ne (Ne.symm hk)] at h
      exact ih h

lemma noPanic_coerceNamed_iff :
    NoPanic (coerceNamed (coerceEntry (coerceLeaf W) valueAssembly entries) schemas) ↔
    ∀ pre s post name value, schemas = pre ++ s :: post →
      (∀ p ∈ pre, ∃ name v, p.name = some name ∧ entries.lookup name = some v ∧ Accepted W v p) →
      s.name = some name → entries.lookup name = some value → NoPanic (coerceValue W value s) := by
  induction schemas with
  | nil => exact iff_of_true trivial (by simp)
  | cons schema schemas ih =>
    rw [coerceNamed, noPanic_bind_iff, and_iff_right (noPanic_orErr _)]
    constructor
    · intro h pre s post name value hs hpre hname hvalue
      rcases pre with _ | ⟨p, pre⟩
      · cases hs
        have hf := (noPanic_bind_iff.mp (h name (orErr_eq_ok.mpr (okOr_eq_ok.mpr hname)))).1
        rwa [coerceEntry_eq hvalue] at hf
      · cases hs
        obtain ⟨hp, hpre⟩ := List.forall_mem_cons.mp hpre
        obtain ⟨pname, v, hpname, hv, r, hr⟩ := hp
        have hf := (noPanic_bind_iff.mp (h pname (orErr_eq_ok.mpr (okOr_eq_ok.mpr hpname)))).2 r
          ((coerceEntry_eq hv).trans hr)
        exact ih.mp (noPanic_bind_iff.mp hf).1 pre s post name value rfl hpre hname hvalue
    · intro h name hname
      have hname := okOr_eq_ok.mp (orErr_eq_ok.mp hname)
      cases hv : entries.lookup name with
      | none =>
        have hentry : ∃ e, coerceEntry (coerceLeaf W) valueAssembly entries name schema = .error (.err e) :=
          coerceEntry_of_none hv
        obtain ⟨e, he⟩ := hentry
        rw [he]
        trivial
      | some value =>
        rw [coerceEntry_eq hv]
        refine NoPanic.bind (h [] schema schemas name value rfl nofun hname hv) fun r hr =>
          NoPanic.bind (ih.mpr ?_) fun _ _ => trivial
        intro pre s post name' value' hs hpre
        exact h (schema :: pre) s post name' value' (by rw [hs]; rfl)
          (List.forall_mem_cons.mpr ⟨⟨name, value, hname, hv, r, hr⟩, hpre⟩)

end Parts

/-- An argument that gets to bytes of more than a word panics. -/
lemma Overruns.panics {value : Json} (h : Overruns W value schema) : ¬ NoPanic (coerceValue W value schema) := by
  induction h with
  | @bytes value schema size data hty hsize hdata hlen =>
    intro hn
    have hleaf : coerceValue W value schema = coerceLeaf W value schema := by
      cases value <;> simp [coerceValue, coerceWith, hty]
    rw [hleaf] at hn
    exact absurd (noPanic_coerceLeaf_iff.mp hn size data hty hdata hlen) (not_le.mpr hsize)
  | @item before after item schema inner hty hbefore _ ih =>
    intro hn
    refine ih (noPanic_coerceItems_iff.mp ?_ before item after rfl hbefore)
    rcases hty with hty | hty
    · simp only [coerceValue, coerceWith, hty] at hn
      exact (noPanic_bind_iff.mp hn).1
    · simp only [coerceValue, coerceWith, hty] at hn
      exact (noPanic_bind_iff.mp ((noPanic_bind_iff.mp hn).2 ()
        (orErr_eq_ok.mpr (rejectIf_eq_ok.mpr (by simp))))).1
  | @field before after item schema s types pre post hty hcomponents hlen hbefore _ ih =>
    intro hn
    refine ih (noPanic_coerceFields_iff.mp ?_ before item after pre s post rfl hcomponents hbefore)
    simp only [coerceValue, coerceWith, hty] at hn
    exact (noPanic_bind_iff.mp ((noPanic_bind_iff.mp hn).2 ()
      (orErr_eq_ok.mpr (rejectIf_eq_ok.mpr (not_not.mpr hlen))))).1
  | @entry entries value name schema s types pre post hty hcomponents hbefore hname hvalue _ ih =>
    intro hn
    refine ih (noPanic_coerceNamed_iff.mp ?_ pre s post name value hcomponents hbefore hname hvalue)
    simp only [coerceValue, coerceWith, hty] at hn
    exact (noPanic_bind_iff.mp hn).1

/-- What is left to the leaf overruns only there. -/
lemma noPanic_of_leaf {value : Json} (h : ¬ Overruns W value schema)
    (hleaf : coerceValue W value schema = coerceLeaf W value schema) :
    NoPanic (coerceValue W value schema) := by
  rw [hleaf, noPanic_coerceLeaf_iff]
  intro size data hty hdata hlen
  by_contra hsize
  exact h (.bytes hty (not_le.mp hsize) hdata hlen)

lemma noPanic_of_not_overruns (value : Json) (schema : SchemaParam) (h : ¬ Overruns W value schema) :
    NoPanic (coerceValue W value schema) := by
  cases hvalue : value with
  | array items =>
    rw [hvalue] at h
    have hitems (inner : DynSolType)
        (hty : schema.ty = .array inner ∨ schema.ty = .fixedArray inner items.length) :
        NoPanic (coerceItems (coerceLeaf W) valueAssembly items (schema.elementSchema inner)) := by
      refine noPanic_coerceItems_iff.mpr fun before item after heq hbefore => ?_
      refine noPanic_of_not_overruns item _ fun ho => h ?_
      subst heq
      exact .item hty hbefore ho
    cases hty : schema.ty with
    | array inner =>
      simp only [coerceValue, coerceWith, hty]
      exact (hitems inner (.inl hty)).bind fun _ _ => trivial
    | fixedArray inner len =>
      simp only [coerceValue, coerceWith, hty]
      refine (noPanic_orErr _).bind fun _ hok => ?_
      have hlen := not_not.mp (rejectIf_eq_ok.mp (orErr_eq_ok.mp hok))
      exact (hitems inner (.inr (hlen ▸ hty))).bind fun _ _ => trivial
    | tuple types =>
      simp only [coerceValue, coerceWith, hty]
      refine (noPanic_orErr _).bind fun _ hok => NoPanic.bind (noPanic_coerceFields_iff.mpr ?_) fun _ _ => trivial
      have hlen := not_not.mp (rejectIf_eq_ok.mp (orErr_eq_ok.mp hok))
      intro before item after pre s post heq hs hbefore
      refine noPanic_of_not_overruns item s fun ho => h ?_
      subst heq
      exact .field hty hs hlen hbefore ho
    | _ => exact noPanic_of_leaf h (by simp [coerceValue, coerceWith, hty])
  | object entries =>
    rw [hvalue] at h
    cases hty : schema.ty with
    | tuple types =>
      simp only [coerceValue, coerceWith, hty]
      refine NoPanic.bind (noPanic_coerceNamed_iff.mpr ?_) fun _ _ => trivial
      intro pre s post name v hs hpre hname hv
      refine noPanic_of_not_overruns v s fun ho => h ?_
      exact .entry hty hs hpre hname hv ho
    | _ => exact noPanic_of_leaf h (by simp [coerceValue, coerceWith, hty])
  | _ => exact hvalue ▸ noPanic_of_leaf h (by simp [hvalue, coerceValue, coerceWith])
termination_by sizeOf value
decreasing_by
  · have hlt := List.sizeOf_lt_of_mem (List.mem_append_right before (List.mem_cons_self (a := item) (l := after)))
    rw [hvalue, heq, Json.array.sizeOf_spec]
    omega
  · have hlt := List.sizeOf_lt_of_mem (List.mem_append_right before (List.mem_cons_self (a := item) (l := after)))
    rw [hvalue, heq, Json.array.sizeOf_spec]
    omega
  · have hlt := List.sizeOf_lt_of_mem (mem_of_lookup hv)
    rw [Prod.mk.sizeOf_spec] at hlt
    rw [hvalue, Json.object.sizeOf_spec]
    omega

/-- **Coercion.** Coercing an argument panics exactly when it gets to fixed bytes of more than 32. -/
theorem coerceValue_noPanic_iff (W : JobText) (value : Json) (schema : SchemaParam) :
    NoPanic (coerceValue W value schema) ↔ ¬ Overruns W value schema :=
  ⟨fun hn h => h.panics hn, noPanic_of_not_overruns value schema⟩

def plainJobText : JobText := ⟨fun _ => "", fun _ => "", fun _ => "", id⟩

def fixedBytesSchema (size : UInt8) : Bytes := [2, 0, 1, 16, 0, size, 0, 0, 0]

/-- Thirty-three bytes for a parameter that the schema declares with that size. -/
theorem coerceValue_panics :
    decodeTlvSchema (fixedBytesSchema 33) = .ok [⟨none, .fixedBytes 33, []⟩] ∧
      ¬ NoPanic (coerceValue plainJobText (.string (List.replicate 33 'a'))
        ⟨none, .fixedBytes 33, []⟩) :=
  ⟨rfl, id⟩

end Gadget.Cli
