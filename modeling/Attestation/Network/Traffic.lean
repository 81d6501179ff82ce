import Attestation.Network

/-!
Many clients at one network. Their steps come in any order: a submission files its request in one
step and closes the round in a later one; closing records the round first and announces it
afterwards; a wait subscribes to the announcements, looks whether its round is recorded, and looks
again behind each announcement that it has not seen.
-/

namespace Attestation

inductive Waiter.Phase
  | looking | asleep | done
  deriving DecidableEq, Repr

structure Waiter where
  round : UInt64
  /-- How many announcements it has seen. -/
  seen : Nat
  phase : Waiter.Phase
  deriving DecidableEq, Repr

def Waiter.look (n : Network) (w : Waiter) : Waiter :=
  { w with phase := if n.isFinalized w.round then .done else .asleep }

structure Traffic where
  network : Network
  /-- Requests that are filed and still have to close a round. -/
  closing : List RequestId
  /-- Handles of the submissions that have ended, in order. -/
  returned : List RequestId
  /-- Rounds that are recorded and not announced. -/
  unannounced : List UInt64
  announced : List UInt64
  waiters : List Waiter

namespace Traffic

def start (mode : Mode) (salt : String) : Traffic :=
  ⟨.start mode salt, [], [], [], [], []⟩

inductive Event
  | file (request : Request)
  /-- The submission in a place among those that still have to close a round closes one. -/
  | close (place : Nat) (ledger : Chain)
  | finalize (ledger : Chain)
  | announce (round : UInt64)
  | setRejecting (on : Bool)
  | setWithholding (on : Bool)
  | subscribe (round : UInt64)
  | look (place : Nat)
  | wake (place : Nat)

/-- Records the current round over what is filed in it. -/
def record (t : Traffic) (ledger : Chain) : Traffic :=
  { t with
    network := t.network.finalize ledger
    unannounced := t.unannounced ++ [t.network.current] }

/-- A submission that fails leaves everything as it is. -/
def file (t : Traffic) (request : Request) : Traffic :=
  match t.network.file request with
  | .error _ | .ok (none, _) => t
  | .ok (some id, network) =>
    match network.mode with
    | .auto => { t with network, closing := t.closing ++ [id] }
    | .manual => { t with network, returned := t.returned ++ [id] }

/-- The traffic behind an event, if the event is possible. -/
def next? (t : Traffic) : Event → Option Traffic
  | .file request => some (t.file request)
  | .close place ledger => do
    let id ← t.closing[place]?
    let t := t.record ledger
    return { t with closing := t.closing.eraseIdx place, returned := t.returned ++ [id] }
  | .finalize ledger => some (t.record ledger)
  | .announce round =>
    if round ∈ t.unannounced then
      some { t with
        unannounced := t.unannounced.erase round
        announced := t.announced ++ [round] }
    else none
  | .setRejecting on => some { t with network := t.network.setRejecting on }
  | .setWithholding on => some { t with network := t.network.setWithholding on }
  | .subscribe round =>
    some { t with waiters := t.waiters ++ [⟨round, t.announced.length, .looking⟩] }
  | .look place => do
    let w ← t.waiters[place]?
    guard (w.phase = .looking)
    return { t with waiters := t.waiters.set place (w.look t.network) }
  | .wake place => do
    let w ← t.waiters[place]?
    guard (w.phase = .asleep ∧ w.seen < t.announced.length)
    return { t with
      waiters := t.waiters.set place { w with seen := t.announced.length, phase := .looking } }

inductive Reachable : Traffic → Prop
  | start (mode : Mode) (salt : String) : Reachable (start mode salt)
  | step {t u : Traffic} {event : Event} :
      Reachable t → t.next? event = some u → Reachable u

end Traffic

end Attestation
