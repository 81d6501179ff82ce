import Attestation.Decimal.Binary

/-!
Decimal fractions in settings: digits with a point among them and an exponent behind them.
-/

namespace Attestation.Settings.Number

def isDigit (c : Char) : Bool :=
  '0' ≤ c && c ≤ '9'

def value (ds : List Char) : Nat :=
  ds.foldl (fun n c => 10 * n + (c.toNat - 48)) 0

def sign : List Char → Bool × List Char
  | '-' :: cs => (true, cs)
  | '+' :: cs => (false, cs)
  | cs => (false, cs)

/-- Nothing, or an exponent and nothing behind it. -/
def exponent? : List Char → Option Int
  | [] => some 0
  | e :: cs =>
    if e == 'e' || e == 'E' then
      let (negative, ds) := sign cs
      if ds.isEmpty || !ds.all isDigit then none
      else some (if negative then -(value ds : Int) else value ds)
    else none

def float (negative : Bool) (whole fraction : List Char) (exponent : Int) : Float :=
  Decimal.Binary.ofDecimal negative (value (whole ++ fraction)) (exponent - fraction.length)

end Attestation.Settings.Number
