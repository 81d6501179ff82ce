import Attestation.Duration
import Attestation.Error

/-!
Polling with backoff: probe, wait, probe again, until a probe says yes or fails for good. The delay
grows with the number of probes up to a bound, and jitter moves it so that many waiting clients do
not probe in step.
-/

namespace Attestation

inductive Backoff
  | fixed | exponential | linear
  deriving DecidableEq, Repr

namespace Backoff

def all : List Backoff :=
  [fixed, exponential, linear]

def name : Backoff → String
  | fixed => "Fixed"
  | exponential => "Exponential"
  | linear => "Linear"

def ofName? (s : String) : Option Backoff :=
  all.find? (·.name == s)

/-- By how much the base delay is multiplied behind the given probe; probes count from 1. -/
def factor (b : Backoff) (attempt : UInt32) : Nat :=
  match b with
  | fixed => 1
  | linear => max attempt.toNat 1
  | exponential => 1 <<< min (attempt.toNat - 1) 20

end Backoff

structure PollPolicy where
  baseDelay : Duration
  maxDelay : Duration
  /-- The part of a delay by which it may be shorter or longer. -/
  jitter : Float
  backoff : Backoff

namespace PollPolicy

def standard : PollPolicy :=
  ⟨.ofSecs 1, .ofSecs 30, 0.1, .exponential⟩

def fixed (d : Duration) : PollPolicy :=
  ⟨d, d, 0, .fixed⟩

def steady (p : PollPolicy) (attempt : UInt32) : Duration :=
  min (p.baseDelay.times (p.backoff.factor attempt)) p.maxDelay

/-- The part of a delay that jitter moves, at most all of it. -/
def spread (p : PollPolicy) : Float :=
  if p.jitter > 1 then 1 else p.jitter

/-- The delay behind the given probe. The draw, from -1 to 1, tells where in the range of the jitter
it falls. -/
def delay (p : PollPolicy) (attempt : UInt32) (draw : Float) : Duration :=
  let d := p.steady attempt
  if p.jitter ≤ 0 then d
  else min (.ofSeconds (d.seconds + d.seconds * p.spread * draw)) p.maxDelay

end PollPolicy

namespace Poll

/-- The number of the next probe; numbers stay at the last one that 32 bits hold. -/
def next (attempt : UInt32) : UInt32 :=
  if attempt = 0xFFFFFFFF then attempt else attempt + 1

/-- How a probe ends the wait, if it does: a failure that may have passed when the probe is repeated
counts as a no. -/
def verdict? : Except Fault Bool → Option (Except Fault Unit)
  | .ok true => some (.ok ())
  | .ok false => none
  | .error e => if e.isRetryable then none else some (.error e)

structure Wait where
  /-- None where no answer has ended the wait. -/
  result : Option (Except Fault Unit)
  sleeps : List Duration
  /-- The answers that were not needed. -/
  rest : List (Except Fault Bool)

/-- The wait behind a number of probes; `draw` chooses the jitter for each. -/
def waitAfter (p : PollPolicy) (draw : UInt32 → Float) (probes : UInt32) :
    List (Except Fault Bool) → Wait
  | [] => ⟨none, [], []⟩
  | answer :: rest =>
    let attempt := next probes
    match verdict? answer with
    | some result => ⟨some result, [], rest⟩
    | none =>
      let w := waitAfter p draw attempt rest
      { w with sleeps := p.delay attempt (draw attempt) :: w.sleeps }

def wait (p : PollPolicy) (draw : UInt32 → Float) (answers : List (Except Fault Bool)) : Wait :=
  waitAfter p draw 0 answers

end Poll

end Attestation
