import Attestation.Claim
import Attestation.Duration
import Attestation.Flow
import Attestation.Network
import Attestation.Settings

/-!
A ledger and an oracle network in memory, with any number of proof flows between them. A flow goes
on in single steps, so that flows and rounds can be interleaved in every way: it files its
request, closes the round where rounds close by themselves, waits, and fetches. Time is virtual.
-/

namespace Attestation

structure Task where
  flow : Flow
  /-- Its request is filed, and closing the round is still to be done. -/
  closing : Bool
  /-- Which of the environment's tokens cancels it. -/
  token : Nat
  /-- When it stops to wait. -/
  deadline : Option Nat

namespace Task

def result? (t : Task) : Option (Except Fault Outcome) :=
  t.flow.result?

end Task

structure Environment where
  chain : Chain
  network : Network
  settings : ProverSettings
  /-- In milliseconds. -/
  now : Nat
  /-- For each token whether it is cancelled; new flows get the last one. -/
  tokens : List Bool
  tasks : List Task

namespace Environment

/-- An environment whose network has a salt of its own. -/
def start (chain : Chain) (mode : Mode) (networkSalt : String) (settings : ProverSettings) :
    Environment :=
  ⟨chain, .start mode networkSalt, settings, 0, [false], []⟩

def token (e : Environment) : Nat :=
  e.tokens.length - 1

def isCancelled (e : Environment) (token : Nat) : Bool :=
  e.tokens.getD token false

def cancel (e : Environment) : Environment :=
  { e with tokens := e.tokens.set e.token true }

def newToken (e : Environment) : Environment :=
  { e with tokens := e.tokens ++ [false] }

def onChain (e : Environment) (f : Chain → Chain) : Environment :=
  { e with chain := f e.chain }

def onNetwork (e : Environment) (f : Network → Network) : Environment :=
  { e with network := f e.network }

def finalize (e : Environment) : Environment :=
  e.onNetwork (·.finalize e.chain)

/-- A new flow for a claim, which is located on the ledger as it is. -/
def newTask (e : Environment) (claim : Claim) : Task where
  flow :=
    match claim.request e.chain.ledger e.settings.salt with
    | .ok request => .submitting request
    | .error f => .ended (.error f)
  closing := false
  token := e.token
  deadline := none

def deadline (e : Environment) : Option Nat :=
  e.settings.finalizationTimeout.map fun limit => e.now + limit.millis

def waitEnd? (e : Environment) (t : Task) (round : UInt64) : Option WaitEnd :=
  if e.isCancelled t.token then some .cancelled
  else if e.network.isFinalized round then some (.answered (.ok ()))
  else if t.deadline.any (· ≤ e.now) then some .timedOut
  else none

/-- One step of a task, and what it makes of the network. -/
def step (e : Environment) (t : Task) : Task × Network :=
  if t.closing then ({ t with closing := false }, e.network.finalize e.chain)
  else
    match t.flow with
    | .submitting request =>
      match e.network.file request with
      | .error f => ({ t with flow := .ended (.error (.attestation f)) }, e.network)
      | .ok (id, network) =>
        ({ t with
            flow := .afterSubmit request (.ok id)
            closing := id.isSome && network.mode == .auto
            deadline := e.deadline }, network)
    | .waiting request id =>
      match e.waitEnd? t id.round with
      | some ending => ({ t with flow := .afterWait request id ending }, e.network)
      | none => (t, e.network)
    | .fetching request id =>
      ({ t with flow := .afterObtain request id (.ok (e.network.obtain id.round id.data)) },
        e.network)
    | .ended _ => (t, e.network)

/-- The most steps that a flow takes from its beginning to its end. -/
def stepsToEnd : Nat := 4

/-- Steps of a task until it has ended or waits. -/
def run : Nat → Environment → Task → Task × Network
  | 0, e, t => (t, e.network)
  | n + 1, e, t =>
    let (t, network) := e.step t
    run n { e with network } t

/-- Runs all tasks as far as they come, one after the other. -/
def settle (e : Environment) : Environment :=
  e.tasks.foldl (fun e t =>
    let (t, network) := run stepsToEnd e t
    { e with network, tasks := e.tasks ++ [t] }) { e with tasks := [] }

/-- Time passes, and all tasks go on. -/
def advance (e : Environment) (milliseconds : Nat) : Environment :=
  settle { e with now := e.now + milliseconds }

/-- Time passes while one waits. Tasks go on with it, but for those that are due at its very end:
whoever waits goes on before them. -/
def await (e : Environment) (milliseconds : Nat) : Environment :=
  { (e.settle.advance (milliseconds - 1)) with now := e.now + milliseconds }

def spawn (e : Environment) (claim : Claim) : Environment :=
  let (t, network) := run stepsToEnd e (e.newTask claim)
  settle { e with network, tasks := e.tasks ++ [t] }

/-- Runs a flow to its end. Where it waits, time passes up to its deadline, but no more than a day:
then the flow is dropped. -/
def prove (e : Environment) (claim : Claim) : Option (Except Fault Outcome) × Environment :=
  let (t, network) := run stepsToEnd e (e.newTask claim)
  let e := { e with network }
  match t.result? with
  | some result => (some result, e)
  | none =>
    let e := e.await (min Flow.day (t.deadline.getD (e.now + Flow.day) - e.now))
    ((run stepsToEnd e t).1.result?, e)

/-- Whether a round is closed before so much time has passed. Nothing closes it while one waits. -/
def awaitRound (e : Environment) (round : UInt64) (milliseconds : Nat) : Bool × Environment :=
  if e.network.isFinalized round then (true, e) else (false, e.await milliseconds)

/-- A prover in words: its ledger, its settings and whether it is cancelled. -/
def describe (e : Environment) : String :=
  let timeout := match e.settings.finalizationTimeout with
    | none => "None"
    | some d => "Some(" ++ d.text ++ ")"
  "AttestationProver \x7b source: " ++ e.chain.source.label ++
    ", config: ProverConfig \x7b finalization_timeout: " ++ timeout ++
    ", mic_salt: " ++ Text.Quoted.quote e.settings.salt ++
    " \x7d, cancelled: " ++ toString (e.isCancelled e.token) ++ " \x7d"

end Environment

end Attestation
