import Gadget.Rust.Control
import Mathlib.Logic.Encodable.Basic

/-!
# Codes that end

A text for every value of an encodable type, of which no part is the text of a value: the number of the
value in unary, with an end.
-/

namespace Gadget.Lib.UnaryCode

open Rust List

variable {α β : Type} [Encodable α] [DecidableEq β] (mark stop : β)

def write (a : α) : List β := List.replicate (Encodable.encode a) mark ++ [stop]

def read (text : List β) : Except String α :=
  match Encodable.decode (text.length - 1) with
  | some a => if write mark stop a = text then .ok a else .error "EOF while parsing a value"
  | none => .error "EOF while parsing a value"

omit [DecidableEq β] in
lemma write_ne_nil (a : α) : write mark stop a ≠ [] :=
  append_ne_nil_of_right_ne_nil _ (cons_ne_nil stop [])

lemma read_write (a : α) : read mark stop (write mark stop a) = .ok a := by
  rw [read, write, length_append, length_replicate, length_singleton,
    Nat.add_sub_cancel, Encodable.encodek]
  exact if_pos rfl

variable {mark stop}

lemma failed_read_take (hne : stop ≠ mark) (a : α) (n : ℕ) (hn : n < (write mark stop a).length) :
    Failed (read mark stop ((write mark stop a).take n) : Except String α) := by
  rw [write, length_append, length_replicate, length_singleton] at hn
  rw [read]
  split
  · rename_i b _
    rw [if_neg]
    · exact failed_error _
    · intro ht
      -- the end is not in the part
      have hend : stop ∈ write mark stop b := mem_append_right _ (mem_singleton.mpr rfl)
      rw [ht, write, take_append_of_le_length (by rw [length_replicate]; omega)] at hend
      exact hne (eq_of_mem_replicate (mem_of_mem_take hend))
  · exact failed_error _

end Gadget.Lib.UnaryCode
