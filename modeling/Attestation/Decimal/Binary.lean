/-!
Binary fractions of 53 bits, as a `Float` stores them: the exact value of a float, and the float
nearest to a quotient, a half going to the even neighbour.
-/

namespace Attestation.Decimal.Binary

/-- The first of the 53 bits, which a float does not store. -/
def leadingBit : Nat := 1 <<< 52

/-- The integer nearest to `num / den`; halves go to the even one. -/
def roundEven (num den : Nat) : Nat :=
  let q := num / den
  let r := 2 * (num % den)
  if r < den then q
  else if den < r then q + 1
  else q + q % 2

/-- The power of two below which `num / den` has at most 53 digits before the point. -/
def scale (num den : Nat) : Int :=
  let estimate : Int := (Nat.log2 num : Int) - Nat.log2 den - 53
  let wide := num <<< (-estimate).toNat
  let high := den <<< (estimate.toNat + 53)
  let q := if wide < high then estimate else estimate + 1
  max q (-1074)

/-- The bits of the float nearest to `num / den`, without a sign. -/
def nearestBits (num den : Nat) : UInt64 :=
  if num = 0 then 0
  else
    let q := scale num den
    let m := roundEven (num <<< (-q).toNat) (den <<< q.toNat)
    -- A carry out of 53 bits, and one out of the subnormal range, are carries into the exponent.
    let bits := if m < leadingBit then m else (q + 1074).toNat * leadingBit + m
    UInt64.ofNat (min bits (0x7FF * leadingBit))

def nearest (num den : Nat) : Float :=
  Float.ofBits (nearestBits num den)

def infinity : Float :=
  Float.ofBits 0x7FF0000000000000

def ofDecimal (negative : Bool) (digits : Nat) (exponent : Int) : Float :=
  let length : Int := (Nat.log2 digits : Int) * 30103 / 100000
  let x :=
    if digits = 0 || exponent + length < -400 then Float.ofBits 0
    else if exponent + length > 400 then infinity
    else nearest (digits * Nat.pow 10 exponent.toNat) (Nat.pow 10 (-exponent).toNat)
  if negative then -x else x

structure Parts where
  negative : Bool
  significand : Nat
  exponent : Int
  deriving DecidableEq, Repr

/-- The exact value of a finite float: a significand times a power of two. -/
def parts (x : Float) : Parts :=
  let bits := x.toBits.toNat
  let biased : Nat := bits / leadingBit % 0x800
  let fraction : Nat := bits % leadingBit
  { negative := bits / leadingBit / 0x800 = 1
    significand := if biased = 0 then fraction else leadingBit + fraction
    exponent := if biased = 0 then -1074 else (biased : Int) - 1075 }

end Attestation.Decimal.Binary
