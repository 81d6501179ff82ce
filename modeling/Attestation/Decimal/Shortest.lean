import Attestation.Decimal.Binary

/-!
The fewest decimal digits that are read back as the same float, and of those the nearest.
-/

namespace Attestation.Decimal

/-- Digits times a power of ten; the last digit is not zero unless all are. -/
structure Digits where
  digits : Nat
  exponent : Int
  deriving DecidableEq, Repr

/-- Which of two numbers counts as the nearer one where a float lies halfway between them. -/
inductive Tie
  | up | toEven
  deriving DecidableEq, Repr

namespace Shortest

/-- The numbers that round to a float: a significand in quarter units of the last place, the ends of
the interval around it, and whether the ends belong to it. -/
structure Interval where
  low : Nat
  value : Nat
  high : Nat
  closed : Bool
  /-- The quarter units count powers of two. -/
  exponent : Int

def interval (p : Binary.Parts) : Interval where
  low :=
    4 * p.significand - (if p.significand = Binary.leadingBit ∧ -1074 < p.exponent then 1 else 2)
  value := 4 * p.significand
  high := 4 * p.significand + 2
  closed := p.significand % 2 = 0
  exponent := p.exponent - 2

/-- The interval times `numerator`, beside the grid of multiples of `unit`, for the grid of
multiples of `10 ^ grid`. -/
def numerator (i : Interval) (grid : Int) : Nat :=
  Nat.pow 10 (-grid).toNat <<< i.exponent.toNat

def unit (i : Interval) (grid : Int) : Nat :=
  Nat.pow 10 grid.toNat <<< (-i.exponent).toNat

def contains (i : Interval) (grid : Int) (c : Nat) : Bool :=
  let x := c * unit i grid
  let low := i.low * numerator i grid
  let high := i.high * numerator i grid
  if i.closed then low ≤ x && x ≤ high else low < x && x < high

/-- The multiple of the unit next to `v`, from the one below, which is the multiple `c`. -/
def nearest (tie : Tie) (v u c : Nat) : Nat :=
  if 2 * (v % u) < u then c
  else if 2 * (v % u) = u ∧ tie = .toEven ∧ c % 2 = 0 then c
  else c + 1

/-- The point of the grid in the interval that is nearest to the value. -/
def onGrid? (tie : Tie) (i : Interval) (grid : Int) : Option Nat :=
  let v := i.value * numerator i grid
  let u := unit i grid
  let c := v / u
  match contains i grid c, contains i grid (c + 1) with
  | true, true => some (nearest tie v u c)
  | true, false => some c
  | false, true => some (c + 1)
  | false, false => none

/-- Tries ever finer grids. -/
def search (tie : Tie) (i : Interval) : Nat → Int → Digits
  | 0, grid => ⟨i.value * numerator i grid / unit i grid, grid⟩
  | n + 1, grid =>
    match onGrid? tie i grid with
    | some c => ⟨c, grid⟩
    | none => search tie i n (grid - 1)

def strip : Nat → Digits → Digits
  | 0, d => d
  | n + 1, d =>
    if d.digits ≠ 0 ∧ d.digits % 10 = 0 then strip n ⟨d.digits / 10, d.exponent + 1⟩ else d

/-- A power of ten not below the value: 19728 / 65536 is just above the logarithm of 2. -/
def coarsest (p : Binary.Parts) : Int :=
  ((Nat.log2 p.significand : Int) + 1 + p.exponent) * 19729 / 65536 + 1

end Shortest

/-- The shortest digits of a finite float, without its sign. -/
def shortest (tie : Tie) (p : Binary.Parts) : Digits :=
  if p.significand = 0 then ⟨0, 0⟩
  else Shortest.strip 20 (Shortest.search tie (Shortest.interval p) 20 (Shortest.coarsest p))

/-- How floats are written: which digits, and where they turn from positional to scientific. -/
structure Style where
  tie : Tie
  /-- Positional down to this many zeros between the point and the first digit. -/
  leadingZeros : Nat
  /-- Positional up to this many digits before the point. -/
  leadingDigits : Nat
  /-- The sign of an exponent that is not negative. -/
  plus : String

namespace Style

def zeros (n : Int) : List Char :=
  List.replicate n.toNat '0'

def render (style : Style) (negative : Bool) (d : Digits) : String :=
  let ds := (toString d.digits).toList
  let point : Int := ds.length + d.exponent
  let body : List Char :=
    if d.digits = 0 then ['0', '.', '0']
    else if point > style.leadingDigits ∨ point < -style.leadingZeros then
      let head := ds.take 1 ++ (if ds.length = 1 then [] else '.' :: ds.drop 1)
      head ++ 'e' :: ((if 0 < point then style.plus else "") ++ toString (point - 1)).toList
    else if 0 ≤ d.exponent then ds ++ zeros d.exponent ++ ['.', '0']
    else if 0 < point then ds.take point.toNat ++ '.' :: ds.drop point.toNat
    else '0' :: '.' :: (zeros (-point) ++ ds)
  String.ofList (if negative then '-' :: body else body)

/-- Floats in settings: positional from `0.0001` to below `10 ^ 16`, then as in `1e16`. -/
def plain : Style := ⟨.up, 3, 16, ""⟩

/-- Floats in JSON text: positional from `0.00001` to below `10 ^ 16`, then as in `1e+16`. -/
def json : Style := ⟨.toEven, 4, 16, "+"⟩

end Style

def text (x : Float) : String :=
  if x.isNaN then "NaN"
  else
    let p := Binary.parts x
    if x.isInf then (if p.negative then "-inf" else "inf")
    else Style.plain.render p.negative (shortest Style.plain.tie p)

end Attestation.Decimal
