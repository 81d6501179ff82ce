import Attestation.Chain.History
import Attestation.Environment

/-!
Histories of an environment: the ledger grows, rounds close, faults come and go, and flows go on one
step at a time, in any order.
-/

namespace Attestation.Environment

inductive Event
  | chain (event : Chain.Event)
  | finalize
  | setRejecting (on : Bool)
  | setWithholding (on : Bool)
  | cancel
  | newToken
  /-- A new flow, which has not taken a step yet. -/
  | launch (claim : Claim)
  /-- One step of the flow in a place. -/
  | step (place : Nat)
  | pass (milliseconds : Nat)

def stepAt (e : Environment) (place : Nat) : Environment :=
  match e.tasks[place]? with
  | some t =>
    let (t, network) := e.step t
    { e with network, tasks := e.tasks.set place t }
  | none => e

def apply (e : Environment) : Event → Environment
  | .chain event => e.onChain (·.apply event)
  | .finalize => e.finalize
  | .setRejecting on => e.onNetwork (·.setRejecting on)
  | .setWithholding on => e.onNetwork (·.setWithholding on)
  | .cancel => e.cancel
  | .newToken => e.newToken
  | .launch claim => { e with tasks := e.tasks ++ [e.newTask claim] }
  | .step place => e.stepAt place
  | .pass milliseconds => { e with now := e.now + milliseconds }

def after (e : Environment) (events : List Event) : Environment :=
  events.foldl apply e

/-- An environment behind some history. The network has a salt of its own, which need not be that of
the prover. -/
def Reachable (e : Environment) : Prop :=
  ∃ chain mode salt settings events, chain.Reachable ∧
    e = (start chain mode salt settings).after events

end Attestation.Environment
