import Gadget.Rust.Int

/-!
# JSON values

`serde_json::Value` and the ways in which the programs look into it.
-/

namespace Gadget.Rust

inductive JsonNumber where
  | unsigned (n : Fin (2 ^ 64))
  | negative (n : Fin (2 ^ 63))
  | float (text : List Char)

inductive Json where
  | null
  | bool (b : Bool)
  | number (n : JsonNumber)
  | string (text : List Char)
  | array (items : List Json)
  | object (entries : List (List Char × Json))

def JsonNumber.asU64 : JsonNumber → Option ℕ
  | .unsigned n => some n.val
  | _ => none

def JsonNumber.asI64 : JsonNumber → Option ℤ
  | .unsigned n => if n.val < 2 ^ 63 then some n.val else none
  | .negative n => some (-(n.val + 1 : ℤ))
  | .float _ => none

/-- `to_string`. -/
def JsonNumber.text : JsonNumber → List Char
  | .unsigned n => Nat.toDigits 10 n.val
  | .negative n => '-' :: Nat.toDigits 10 (n.val + 1)
  | .float text => text

end Gadget.Rust
