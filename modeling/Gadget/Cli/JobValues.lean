import Gadget.Cli.Schema
import Gadget.Rust.BigEndian
import Gadget.Rust.Json

/-!
# Arguments of jobs

The job commands take arguments from a JSON file. `coerceValue` turns a JSON value into a value of
the schema's type, and `encodeArguments` writes the values in the compact format of the contracts.
-/

namespace Gadget.Cli

open Rust
structure JobText where
  typeLabel : DynSolType → String
  typeDebug : DynSolType → String
  shown : Json → String
  toLowercase : List Char → List Char

variable (W : JobText)

/-- `alloy_dyn_abi::DynSolValue`, without structs, which no argument becomes. -/
inductive DynSolValue where
  | bool (b : Bool)
  | uint (n : BitVec 256) (bits : ℕ)
  | int (n : BitVec 256) (bits : ℕ)
  | address (bytes : Bytes)
  | fixedBytes (word : Bytes) (size : ℕ)
  | string (text : List Char)
  | bytes (bytes : Bytes)
  | array (items : List DynSolValue)
  | fixedArray (items : List DynSolValue)
  | tuple (fields : List DynSolValue)
  | function (bytes : Bytes)

def orElseErr {α : Type} (text : String → String) : Except String α → Outcome String α
  | .ok a => .ok a
  | .error e => .error (.err (text e))

def fromStrRadix (radix : ℕ) : List Char → ℕ → Except String ℕ
  | [], acc => .ok acc
  | c :: cs, acc =>
    if c = '_' then fromStrRadix radix cs acc
    else
      match alnumValue c with
      | none => .error ("invalid digit: " ++ toString c)
      | some d =>
        if d < radix then
          if acc * radix + d < 2 ^ 256 then fromStrRadix radix cs (acc * radix + d)
          else .error "the value is too large to fit the target type"
        else .error ("digit " ++ toString d ++ " is out of range for base " ++ toString radix)

def hexPart : List Char → Option (List Char)
  | '0' :: 'x' :: rest => some rest
  | _ => none

variable (text : List Char)

def parseUintFromStr : Outcome String ℕ :=
  let trimmed := trim text
  match hexPart trimmed with
  | some hex =>
    orElseErr (fun e => "invalid hex integer `" ++ String.ofList trimmed ++ "`: " ++ e)
      (fromStrRadix 16 hex 0)
  | none =>
    orElseErr (fun e => "invalid integer `" ++ String.ofList trimmed ++ "`: " ++ e)
      (fromStrRadix 10 trimmed 0)

def parseUint : Json → Outcome String ℕ
  | .number n =>
    orErr (okOr n.asU64 "unsigned integers must fit within u64 or be provided as strings")
  | .string text => parseUintFromStr text
  | _ => .error (.err "unsigned integers must be numbers or strings")

def splitSign : List Char → Bool × List Char
  | '+' :: rest => (false, rest)
  | '-' :: rest => (true, rest)
  | text => (false, text)

def checkedFromSignAndAbs (negative : Bool) (abs : ℕ) : Except String ℤ := do
  let value : ℤ := if negative then -abs else abs
  rejectIf (value < -2 ^ 255 ∨ 2 ^ 255 ≤ value) "number does not fit in the integer size"
  return value

def fromDecStr : Except String ℤ := do
  let abs ← fromStrRadix 10 (splitSign text).2 0
  checkedFromSignAndAbs (splitSign text).1 abs

def integerFromStr : Outcome String ℤ :=
  let trimmed := trim text
  match hexPart trimmed with
  | some hex => do
    let n ← orElseErr (fun e => "invalid hex integer `" ++ String.ofList trimmed ++ "`: " ++ e)
      (fromStrRadix 16 hex 0)
    return (n : ℤ)
  | none =>
    orElseErr (fun e => "invalid integer `" ++ String.ofList trimmed ++ "`: " ++ e)
      (fromDecStr trimmed)

def integerOf : Json → Outcome String ℤ
  | .number n =>
    orErr (okOr n.asI64 "signed integers must fit within i64 or be provided as strings")
  | .string text => integerFromStr text
  | _ => .error (.err "signed integers must be numbers or strings")

def parseInt (value : Json) : Outcome String (BitVec 256) := do
  let n ← integerOf value
  return BitVec.ofInt 256 n

def parseBool : Json → Outcome String Bool
  | .bool b => .ok b
  | .number n =>
    match n.asU64 with
    | some 0 => .ok false
    | some 1 => .ok true
    | some _ => .error (.err "boolean numbers must be 0 or 1")
    | none => .error (.err "boolean numbers must be integers")
  | .string text =>
    let lower := W.toLowercase (trim text)
    if lower = "true".toList ∨ lower = "1".toList then .ok true
    else if lower = "false".toList ∨ lower = "0".toList then .ok false
    else .error (.err ("unable to parse `" ++ String.ofList lower ++ "` as a boolean"))
  | _ => .error (.err "boolean values must be true/false or 0/1")

def parseAddress : Json → Outcome String Bytes
  | .string text =>
    match hexDecode (stripHexMarker text) with
    | .ok bytes =>
      if bytes.length = 20 then .ok bytes
      else .error (.err ("invalid address `" ++ String.ofList text ++ "`"))
    | .error _ => .error (.err ("invalid address `" ++ String.ofList text ++ "`"))
  | _ => .error (.err "addresses must be provided as strings")

def parseString : Json → Outcome String (List Char)
  | .string text => .ok text
  | .number n => .ok n.text
  | .bool b => .ok (toString b).toList
  | _ => .error (.err "strings must be provided as JSON strings")

def trimQuotes : List Char :=
  ((text.dropWhile (· = '"')).reverse.dropWhile (· = '"')).reverse

/-- `parse_bytes_from_str`; `hex::decode` takes one more `0x` in front of the digits. -/
def parseBytesFromStr : Outcome String Bytes :=
  let trimmed := trimQuotes text
  match hexPart trimmed with
  | some hex =>
    orElseErr (fun e => "invalid hex string `" ++ String.ofList trimmed ++ "`: " ++ e)
      (hexDecode (stripHexMarker hex))
  | none => .ok (utf8 trimmed)

def byteItems : List Json → Outcome String Bytes
  | [] => .ok []
  | .number n :: items => do
    let number ← orErr (okOr n.asU64 "byte arrays must contain numbers between 0 and 255")
    orErr (rejectIf (0xFF < number) "byte values must be between 0 and 255")
    let bytes ← byteItems items
    return UInt8.ofNat number :: bytes
  | _ => .error (.err "byte arrays must contain numbers between 0 and 255")

def parseBytes : Json → Outcome String Bytes
  | .string text => parseBytesFromStr text
  | .array items => byteItems items
  | _ => .error (.err "byte values must be strings or arrays of numbers")

def SchemaParam.tupleComponents (schema : SchemaParam) : List SchemaParam :=
  match schema.components, schema.ty with
  | [], .tuple types => types.map fun ty => ⟨none, ty, []⟩
  | components, _ => components

def SchemaParam.elementSchema (schema : SchemaParam) (ty : DynSolType) : SchemaParam :=
  ⟨none, ty, schema.components⟩

structure Assembly (α : Type) where
  array : List α → α
  fixedArray : List α → α
  tuple : List α → α

def coerceNamed {α : Type} (entry : List Char → SchemaParam → Outcome String α) :
    List SchemaParam → Outcome String (List α)
  | [] => .ok []
  | schema :: schemas => do
    let name ← orErr (okOr schema.name
      "tuple component is unnamed; provide an array instead of an object")
    let value ← entry name schema
    let values ← coerceNamed entry schemas
    return value :: values

section CoerceWith

variable {α : Type} (leaf : Json → SchemaParam → Outcome String α) (assemble : Assembly α)

mutual

/-- The recursion of `coerce_value` and `parse_tuple`: what is not an array or a tuple with its parts
is left to `leaf`. -/
def coerceWith : Json → SchemaParam → Outcome String α
  | .array items, schema =>
    match schema.ty with
    | .array inner => do
      let values ← coerceItems items (schema.elementSchema inner)
      return assemble.array values
    | .fixedArray inner len => do
      orErr (rejectIf (items.length ≠ len) ("expected " ++ toString len ++
        " elements but received " ++ toString items.length))
      let values ← coerceItems items (schema.elementSchema inner)
      return assemble.fixedArray values
    | .tuple _ => do
      orErr (rejectIf (items.length ≠ schema.tupleComponents.length) ("expected " ++
        toString schema.tupleComponents.length ++ " tuple fields but received " ++
        toString items.length))
      let values ← coerceFields items schema.tupleComponents
      return assemble.tuple values
    | _ => leaf (.array items) schema
  | .object entries, schema =>
    match schema.ty with
    | .tuple _ => do
      let values ← coerceNamed (coerceEntry entries) schema.tupleComponents
      return assemble.tuple values
    | _ => leaf (.object entries) schema
  | value, schema => leaf value schema

def coerceItems : List Json → SchemaParam → Outcome String (List α)
  | [], _ => .ok []
  | item :: items, schema => do
    let value ← coerceWith item schema
    let values ← coerceItems items schema
    return value :: values

def coerceFields : List Json → List SchemaParam → Outcome String (List α)
  | item :: items, schema :: schemas => do
    let value ← coerceWith item schema
    let values ← coerceFields items schemas
    return value :: values
  | _, _ => .ok []

def coerceEntry : List (List Char × Json) → List Char → SchemaParam → Outcome String α
  | [], name, _ => .error (.err ("missing tuple field `" ++ String.ofList name ++ "`"))
  | (key, value) :: entries, name, schema =>
    if key = name then coerceWith value schema else coerceEntry entries name schema

end

end CoerceWith

def fixedWord (size : ℕ) (data : Bytes) : Outcome String Bytes :=
  if size ≤ 32 then .ok (data ++ List.replicate (32 - size) 0)
  else .error (.panicked ("range end index " ++ toString size ++
    " out of range for slice of length 32"))

def coerceLeaf (value : Json) (schema : SchemaParam) : Outcome String DynSolValue :=
  match schema.ty with
  | .bool => do return .bool (← parseBool W value)
  | .uint size => do return .uint (BitVec.ofNat 256 (← parseUint value)) size
  | .int size => do return .int (← parseInt value) size
  | .address => do return .address (← parseAddress value)
  | .string => do return .string (← parseString value)
  | .bytes => do return .bytes (← parseBytes value)
  | .fixedBytes size => do
    let data ← parseBytes value
    orErr (rejectIf (data.length ≠ size) ("expected " ++ toString size ++ " bytes but received " ++
      toString data.length))
    return .fixedBytes (← fixedWord size data) size
  | .array _ | .fixedArray _ _ =>
    .error (.err ("expected an array for parameter " ++ W.typeLabel schema.ty))
  | .tuple _ =>
    .error (.err "tuples must be provided as JSON arrays or objects in parameter files")
  | .function => do
    let data ← parseBytes value
    orErr (rejectIf (data.length ≠ 24) "function values must be 24 bytes (address + selector)")
    return .function data
  | .customStruct _ _ _ =>
    .error (.err ("unsupported type " ++ W.typeDebug schema.ty ++ " for job parameters"))

def valueAssembly : Assembly DynSolValue := ⟨.array, .fixedArray, .tuple⟩

def coerceValue : Json → SchemaParam → Outcome String DynSolValue :=
  coerceWith (coerceLeaf W) valueAssembly

def encodeCompactLength (len : ℕ) : Bytes :=
  if len < 0x10000000 then compactLength len
  else
    [0xF0, UInt8.ofNat (len >>> 24 &&& 0xFF), UInt8.ofNat (len >>> 16 &&& 0xFF),
      UInt8.ofNat (len >>> 8 &&& 0xFF), UInt8.ofNat (len &&& 0xFF)]


end Gadget.Cli
