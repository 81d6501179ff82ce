import Attestation.Error
import Attestation.Oracle

/-!
Proof flows: a request is submitted, its round is waited for, and the proof is fetched. A flow goes
from stage to stage with the replies of the oracle network and the end of the wait.
-/

namespace Attestation

/-- Where a flow that proved nothing ended. -/
inductive Stage
  | submitted | fetched
  deriving DecidableEq, Repr

def Stage.name : Stage → String
  | submitted => "submitted"
  | fetched => "fetched"

/-- A response that the network validated, with the request and its handle. -/
structure Proof where
  id : RequestId
  request : Request
  response : Response
  deriving DecidableEq, Repr

inductive Outcome
  | proved (proof : Proof)
  /-- The network did not validate the claim. -/
  | notProved (stage : Stage)
  deriving DecidableEq, Repr

inductive WaitEnd
  | answered (reply : Except Fault Unit)
  | cancelled
  | timedOut

/-- The failure in which the end of a wait for a round ends a flow. -/
def WaitEnd.failure? (round : UInt64) : WaitEnd → Option Fault
  | answered (.ok ()) => none
  | answered (.error e) => some e
  | cancelled => some .cancelled
  | timedOut => some (.finalizationTimeout round)

inductive Call
  | submit (request : Request)
  | wait (round : UInt64)
  | obtain (round : UInt64) (data : Bytes)
  deriving DecidableEq, Repr

inductive Flow
  | submitting (request : Request)
  | waiting (request : Request) (id : RequestId)
  | fetching (request : Request) (id : RequestId)
  | ended (result : Except Fault Outcome)

namespace Flow

/-- How long a flow is watched, in milliseconds. -/
def day : Nat := 86400000

/-- The question that comes next, unless the flow has ended. -/
def call? : Flow → Option Call
  | submitting request => some (.submit request)
  | waiting _ id => some (.wait id.round)
  | fetching _ id => some (.obtain id.round id.data)
  | ended _ => none

def result? : Flow → Option (Except Fault Outcome)
  | ended result => some result
  | _ => none

/-- A flow behind the reply to its request; without a handle the request was rejected. -/
def afterSubmit (request : Request) : Except Fault (Option RequestId) → Flow
  | .error e => ended (.error e)
  | .ok none => ended (.ok (.notProved .submitted))
  | .ok (some id) => waiting request id

def afterWait (request : Request) (id : RequestId) (ending : WaitEnd) : Flow :=
  match ending.failure? id.round with
  | some e => ended (.error e)
  | none => fetching request id

/-- What a reply proves: a result with a proof, of a round that is final. -/
def outcome (request : Request) (id : RequestId) (reply : ProofReply) : Outcome :=
  match reply.result with
  | some response =>
    if reply.finalized && response.hasProof then .proved ⟨id, request, response⟩
    else .notProved .fetched
  | none => .notProved .fetched

def afterObtain (request : Request) (id : RequestId) (reply : Except Fault ProofReply) : Flow :=
  ended (reply.map (outcome request id))

end Flow

/-- What an oracle network replies in one flow, whatever it is asked. Times are in milliseconds. -/
structure Script where
  submit : Except Fault (Option RequestId)
  /-- The reply to the wait and how long it takes; none never comes. -/
  wait : Option (Nat × Except Fault Unit)
  obtain : Except Fault ProofReply

namespace Script

/-- The earlier of two events, the first one where they come together. -/
def earlier {α : Type} : Option (Nat × α) → Option (Nat × α) → Option (Nat × α)
  | some a, some b => if b.1 < a.1 then some b else some a
  | some a, none => some a
  | none, b => b

/-- How and when the wait ends, if it does. A flow that was cancelled before it waits is so at once.
Of what comes together in a wait the reply counts first, then the timeout, then a cancellation. -/
def waitEnd (s : Script) (timeout cancelled : Option Nat) : Option (Nat × WaitEnd) :=
  if cancelled = some 0 then some (0, .cancelled)
  else
    earlier (s.wait.map fun w => (w.1, .answered w.2)) <|
      earlier (timeout.map fun t => (t, .timedOut)) (cancelled.map fun t => (t, .cancelled))

/-- A flow that has been run: the questions it put, how it ended, and when. -/
structure Run where
  calls : List Call
  /-- None where the flow did not end. -/
  result : Option (Nat × Except Fault Outcome)

/-- A flow for a request, given how its wait ends. Cancelled before it waits, it does not ask for
the round at all. -/
def follow (s : Script) (request : Request) (cancelledBefore : Bool)
    (ending : Option (Nat × WaitEnd)) : Run :=
  let submit := Call.submit request
  match s.submit with
  | .error e => ⟨[submit], some (0, .error e)⟩
  | .ok none => ⟨[submit], some (0, .ok (.notProved .submitted))⟩
  | .ok (some id) =>
    let asked := if cancelledBefore then [submit] else [submit, .wait id.round]
    match ending with
    | none => ⟨asked, none⟩
    | some (time, ending) =>
      match ending.failure? id.round with
      | some e => ⟨asked, some (time, .error e)⟩
      | none =>
        ⟨asked ++ [.obtain id.round id.data],
          some (time, s.obtain.map (Flow.outcome request id))⟩

/-- Runs a flow for a request. The wait is bounded by the timeout, and the flow is cancelled at a
time. -/
def run (s : Script) (request : Request) (timeout cancelled : Option Nat) : Run :=
  s.follow request (cancelled = some 0) (s.waitEnd timeout cancelled)

/-- Runs a flow that is watched for so long, and not cancelled any more at the end of that time. -/
def watch (limit : Nat) (s : Script) (request : Request) (timeout cancelled : Option Nat) : Run :=
  s.follow request (cancelled = some 0) <|
    (s.waitEnd timeout (cancelled.filter (· < limit))).filter (·.1 ≤ limit)

end Script

end Attestation
