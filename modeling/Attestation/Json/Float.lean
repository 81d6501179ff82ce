import Attestation.Decimal.Shortest
import Attestation.Json

/-!
Floats in JSON: written in their shortest digits, read from the digits that 64 bits hold, times or
over a power of ten.
-/

namespace Attestation

namespace Json

/-- A float in its shortest digits; what is not finite is null. -/
def ofFloat (x : Float) : Json :=
  if x.isNaN || x.isInf then null
  else
    let p := Decimal.Binary.parts x
    let d := Decimal.shortest Decimal.Style.json.tie p
    number (.scientific p.negative d.digits d.exponent)

def power (n : Nat) : Float :=
  Decimal.Binary.nearest (Nat.pow 10 n) 1

/-- Digits below `2 ^ 64` times a power of ten, in float arithmetic: one rounding for the digits,
one for the power and one for the product or quotient. Nothing beyond the floats is a value. -/
def scaled? (digits : Nat) (exponent : Int) : Option Float :=
  let x := (UInt64.ofNat digits).toFloat
  if digits = 0 then some x
  else if exponent > 308 then none
  else if 0 ≤ exponent then
    let y := x * power exponent.toNat
    if y.isInf then none else some y
  else if -308 ≤ exponent then some (x / power (-exponent).toNat)
  else if -616 ≤ exponent then some (x / power 308 / power (-exponent - 308).toNat)
  else some 0

end Json

namespace JsonNumber

/-- The float that a number is read as, unless it lies beyond the floats. -/
def float? : JsonNumber → Option Float
  | whole negative magnitude =>
    let ds := (toString magnitude).toList
    let (digits, dropped) := ds.foldl (fun (kept, dropped) c =>
      let more := 10 * kept + (c.toNat - 48)
      if dropped = 0 ∧ more < UInt64.size then (more, 0) else (kept, dropped + 1)) (0, 0)
    (Json.scaled? digits dropped).map fun x => if negative then -x else x
  | scientific negative digits exponent =>
    (Json.scaled? digits exponent).map fun x => if negative then -x else x

/-- Whether a number is an integer of 64 bits, or not beyond the floats. -/
def isBounded : JsonNumber → Bool
  | whole false n => n < UInt64.size || (float? (whole false n)).isSome
  | n => (float? n).isSome

end JsonNumber

def Json.float? : Json → Option Float
  | number n => n.float?
  | _ => none

end Attestation
