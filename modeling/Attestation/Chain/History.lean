import Attestation.Chain

/-!
Histories of a chain: what happens to it, in any order and number.
-/

namespace Attestation.Chain

inductive Event
  | mine (transactions : List Transaction)
  | mineEmpty (count : Nat)
  | skipTime (seconds : UInt64)
  deriving DecidableEq, Repr

def apply (c : Chain) : Event → Chain
  | .mine transactions => c.mine transactions
  | .mineEmpty count => mineEmpty count c
  | .skipTime seconds => c.skipTime seconds

def after (c : Chain) (events : List Event) : Chain :=
  events.foldl apply c

/-- A chain that grew from its first block. -/
def Reachable (c : Chain) : Prop :=
  ∃ source confirmations blockTime events, c = (start source confirmations blockTime).after events

end Attestation.Chain
