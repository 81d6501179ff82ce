import Attestation.Json
import Attestation.Numeral

/-!
Large integers in JSON: read from integers of at most 64 bits or from text in base 16, 10, 8 or 2,
written as text.
-/

namespace Attestation.Json

namespace Quantity

/-- The base that the text announces, and its digits. -/
def radix : List Char → Nat × List Char
  | '0' :: 'x' :: cs | '0' :: 'X' :: cs => (16, cs)
  | '0' :: 'o' :: cs | '0' :: 'O' :: cs => (8, cs)
  | '0' :: 'b' :: cs | '0' :: 'B' :: cs => (2, cs)
  | cs => (10, cs)

/-- Digits behind an announced base; none stand for zero. -/
def magnitude? (cs : List Char) : Option Nat :=
  let (base, ds) := radix cs
  Numeral.digits? base ds

def integer? : List Char → Option Int
  | '-' :: cs => (magnitude? cs).map fun n => -(n : Int)
  | '+' :: cs => (magnitude? cs).map fun n => (n : Int)
  | cs => (magnitude? cs).map fun n => (n : Int)

end Quantity

/-- An integer of 256 bits in two's complement. -/
def int256? : Json → Option Word
  | number (.whole false n) => if n < UInt64.size then some (BitVec.ofNat 256 n) else none
  | number (.whole true n) =>
    if 0 < n ∧ n ≤ 1 <<< 63 then some (BitVec.ofInt 256 (-(n : Int))) else none
  | string s =>
    match Quantity.integer? s.toList with
    | some i =>
      if (BitVec.intMin 256).toInt ≤ i ∧ i ≤ (BitVec.intMax 256).toInt then
        some (BitVec.ofInt 256 i)
      else none
    | none => none
  | _ => none

def uint128? : Json → Option (BitVec 128)
  | number (.whole false n) => if n < UInt64.size then some (BitVec.ofNat 128 n) else none
  | string s =>
    match Quantity.magnitude? s.toList with
    | some n => if n < 1 <<< 128 then some (BitVec.ofNat 128 n) else none
    | none => none
  | _ => none

/-- Decimal digits behind the sign of a negative number. -/
def int256 (w : Word) : Json :=
  string (toString w.toInt)

/-- Hexadecimal digits behind `0x`, as few as the number needs. -/
def uint128 (n : BitVec 128) : Json :=
  string (String.ofList ('0' :: 'x' :: Nat.toDigits 16 n.toNat))

end Attestation.Json
