import Attestation.Duration

/-!
Virtual clocks. A clock counts 64 bits of nanoseconds and goes around at their end; it advances by
what it is told to sleep. Handles that were made from one another show the same clock.
-/

namespace Attestation

structure Clock where
  elapsed : UInt64
  sleeps : UInt64
  deriving DecidableEq, Repr

namespace Clock

def start : Clock :=
  ⟨0, 0⟩

/-- One step counts no more than 64 bits of nanoseconds. -/
def advance (c : Clock) (d : Duration) : Clock :=
  { c with elapsed := c.elapsed + UInt64.ofNat (min d.nanos (UInt64.size - 1)) }

def sleep (c : Clock) (d : Duration) : Clock :=
  { c.advance d with sleeps := c.sleeps + 1 }

def sleepAll (c : Clock) (ds : List Duration) : Clock :=
  ds.foldl sleep c

end Clock

/-- Clocks behind handles: for each handle the place of its clock. -/
structure Clocks where
  clocks : List Clock
  handles : List Nat
  deriving DecidableEq, Repr

namespace Clocks

def single : Clocks :=
  ⟨[.start], [0]⟩

def read? (cs : Clocks) (handle : Nat) : Option Clock :=
  cs.handles[handle]?.bind (cs.clocks[·]?)

/-- All handles in order, each with its clock. -/
def readAll (cs : Clocks) : List Clock :=
  cs.handles.filterMap (cs.clocks[·]?)

def update (cs : Clocks) (handle : Nat) (f : Clock → Clock) : Clocks :=
  match cs.handles[handle]? with
  | some i => { cs with clocks := cs.clocks.modify i f }
  | none => cs

/-- One more handle on the clock of a handle. -/
def share (cs : Clocks) (handle : Nat) : Clocks :=
  match cs.handles[handle]? with
  | some i => { cs with handles := cs.handles ++ [i] }
  | none => cs

/-- One more handle, on a clock of its own. -/
def fresh (cs : Clocks) : Clocks :=
  ⟨cs.clocks ++ [.start], cs.handles ++ [cs.clocks.length]⟩

end Clocks

end Attestation
