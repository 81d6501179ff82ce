import Attestation.Decimal.Binary

/-!
Spans of time in whole nanoseconds, below `2 ^ 64` seconds. Arithmetic that would pass the longest
span stops there. Main statement: a multiple is exact up to the longest span (`nanos_times`).
-/

namespace Attestation

def Duration.second : Nat := 1_000_000_000

def Duration.milli : Nat := 1_000_000

structure Duration where
  nanos : Nat
  nanos_lt : nanos < UInt64.size * Duration.second
  deriving DecidableEq, Repr

namespace Duration

def longest : Nat := UInt64.size * second - 1

def ofNanos (n : Nat) : Duration :=
  ⟨min n longest, by unfold longest second UInt64.size; omega⟩

def ofMillis (n : Nat) : Duration :=
  ofNanos (n * milli)

def ofSecs (n : Nat) : Duration :=
  ofNanos (n * second)

def zero : Duration :=
  ofNanos 0

instance : Inhabited Duration := ⟨zero⟩

instance : LE Duration := ⟨fun a b => a.nanos ≤ b.nanos⟩

instance (a b : Duration) : Decidable (a ≤ b) :=
  inferInstanceAs (Decidable (a.nanos ≤ b.nanos))

instance : Min Duration := minOfLe

def times (d : Duration) (n : Nat) : Duration :=
  ofNanos (d.nanos * n)

def secs (d : Duration) : Nat :=
  d.nanos / second

def millis (d : Duration) : Nat :=
  d.nanos / milli

/-- The nanoseconds behind the whole seconds. -/
def subsec (d : Duration) : Nat :=
  d.nanos % second

theorem nanos_le_longest (d : Duration) : d.nanos ≤ longest := by
  have := d.nanos_lt
  unfold longest
  omega

theorem nanos_ofNanos (n : Nat) : (ofNanos n).nanos = min n longest :=
  rfl

theorem nanos_times (d : Duration) (n : Nat) : (d.times n).nanos = min (d.nanos * n) longest :=
  rfl

theorem nanos_min (a b : Duration) : (min a b).nanos = min a.nanos b.nanos := by
  change (if a.nanos ≤ b.nanos then a else b).nanos = _
  split <;> omega

/-- The seconds as a float: whole seconds and the rest are rounded one by one. -/
def seconds (d : Duration) : Float :=
  (UInt64.ofNat d.secs).toFloat + (UInt64.ofNat d.subsec).toFloat / 1e9

/-- The span nearest to a float of seconds, a half going to the even nanosecond. Nothing below zero
is a span, so that counts as zero. -/
def ofSeconds (x : Float) : Duration :=
  if x > 0 then
    if x.isInf then ofNanos longest
    else
      let p := Decimal.Binary.parts x
      ofNanos (Decimal.Binary.roundEven (p.significand <<< p.exponent.toNat * second)
        (1 <<< (-p.exponent).toNat))
  else zero

/-- A number with a fraction of so many places, without zeros at its end. -/
def withFraction (whole fraction places : Nat) : String :=
  let ds := (toString (Nat.pow 10 places + fraction)).toList.drop 1
  let kept := (ds.reverse.dropWhile (· == '0')).reverse
  toString whole ++ (if kept.isEmpty then "" else String.ofList ('.' :: kept))

/-- The span in the largest unit of which it holds one. -/
def text (d : Duration) : String :=
  let n := d.nanos
  if second ≤ n then withFraction (n / second) (n % second) 9 ++ "s"
  else if milli ≤ n then withFraction (n / milli) (n % milli) 6 ++ "ms"
  else if 1000 ≤ n then withFraction (n / 1000) (n % 1000) 3 ++ "µs"
  else toString n ++ "ns"

end Duration

end Attestation
