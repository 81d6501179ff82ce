import Attestation.Codec
import Attestation.Flow
import Attestation.Oracle.Json
import Attestation.Settings

/-!
Providers of an oracle network behind an HTTP server with three questions: `POST /api/request` files
a request, `GET /api/round/n` tells whether a round is final, `POST /api/proof` fetches a proof.
Questions and answers are JSON. A session puts questions to a server whose replies are given.
-/

namespace Attestation

inductive HttpReply
  /-- A status with a body, or without one where the body breaks off. -/
  | answer (status : UInt16) (body : Option String)
  | dropped
  /-- Nothing before the time for a question is over. -/
  | hung
  deriving DecidableEq, Repr

structure HttpRequest where
  method : String
  path : String
  /-- Empty in a question without a body. -/
  body : String
  contentType : Option String
  deriving DecidableEq, Repr

namespace HttpRequest

def get (path : String) : HttpRequest :=
  ⟨"GET", path, "", none⟩

def post (path : String) (body : Json) : HttpRequest :=
  ⟨"POST", path, body.compact, some "application/json"⟩

end HttpRequest

namespace HttpReply

/-- The body as it arrives: two statuses never have one. -/
def received (status : UInt16) (body : Option String) : Option String :=
  if status = 204 ∨ status = 304 then some "" else body

/-- The value in a reply. Only a status of success brings one. -/
def value {α : Type} (timeout : Duration) (read : String → Option α) : HttpReply → Except Fault α
  | dropped => .error (.oracleUnavailable "connection failed")
  | hung => .error (.timeout (UInt64.ofNat timeout.secs))
  | answer status body =>
    let body := received status body
    if 200 ≤ status ∧ status < 300 then
      match body.bind read with
      | some a => .ok a
      | none => .error (.invalidResponse "undecodable body")
    else
      let shown := body.getD "[failed to read response body"
      if 500 ≤ status ∧ status < 600 then .error (.oracleFailed status shown)
      else .error (.oracleRefused status shown)

end HttpReply

structure Provider where
  settings : ClientSettings
  policy : PollPolicy

namespace Provider

/-- Whether a text can stand in the header of a question. -/
def fitsHeader (s : String) : Bool :=
  s.toList.all fun c => c == '\t' || (0x20 ≤ c.toNat && c.toNat != 0x7F)

/-- A provider under its settings, if they can be used. -/
def of (settings : ClientSettings) (policy : PollPolicy) : Except Fault Provider :=
  if (Text.trim settings.baseUrl.toList).isEmpty then
    .error (.configuration "oracle base URL is empty")
  else if !fitsHeader settings.userAgent then
    .error (.configuration "failed to build HTTP client")
  else .ok ⟨settings, policy⟩

/-- A path behind the address of the provider, which may end in slashes. -/
def url (p : Provider) (path : String) : String :=
  String.ofList (Text.dropEnd (· == '/') p.settings.baseUrl.toList) ++ path

def submitQuestion (p : Provider) (data : Bytes) : HttpRequest :=
  .post (p.url "/api/request") (.object [("requestBytes", .bytes data)])

def roundQuestion (p : Provider) (round : UInt64) : HttpRequest :=
  .get (p.url ("/api/round/" ++ toString round.toNat))

def proofQuestion (p : Provider) (round : UInt64) (data : Bytes) : HttpRequest :=
  .post (p.url "/api/proof")
    (.object [("roundId", .nat round.toNat), ("requestBytes", .bytes data)])

/-- Whether a request was accepted, and the round, where the reply names it. -/
def readSubmitted? (s : String) : Option (Bool × Option UInt64) := do
  let j ← Json.read? (.plain ["status", "round"]) s
  let [status, round] ← j.fields? ["status", "round"] 1 | none
  let accepted ← Json.need
    (Json.case? fun
      | "OK" => some true
      | "REJECTED" => some false
      | _ => none) status
  return (accepted, ← Json.orElse (Json.option? Json.uint64?) none round)

def readRound? (s : String) : Option (UInt64 × Bool) := do
  let j ← Json.read? (.plain ["round", "finalized"]) s
  let [round, finalized] ← j.fields? ["round", "finalized"] 2 | none
  return (← Json.need Json.uint64? round, ← Json.need Json.bool? finalized)

def readProof? (s : String) : Option ProofReply := do
  let j ← Json.read? ProofReply.shape s
  let [finalized, result] ← j.fields? ProofReply.names 1 | none
  return {
    finalized := ← Json.need Json.bool? finalized
    result := ← Json.orElse (Json.option? Response.ofJson?) none result }

def submitted (p : Provider) (data : Bytes) (reply : HttpReply) :
    Except Fault (Option RequestId) := do
  match ← reply.value p.settings.timeout readSubmitted? with
  | (true, some round) => return some ⟨round, data⟩
  | (true, none) => throw (.invalidResponse "accepted request without a round")
  | (false, _) => return none

/-- Whether the round that was asked for is final. -/
def finalized (p : Provider) (round : UInt64) (reply : HttpReply) : Except Fault Bool := do
  let (answered, finalized) ← reply.value p.settings.timeout readRound?
  if answered = round then return finalized
  else throw (.invalidResponse s!"asked for round {round}, got round {answered}")

def proof (p : Provider) (reply : HttpReply) : Except Fault ProofReply :=
  reply.value p.settings.timeout readProof?

end Provider

/-- Questions that were put, what came of them, and the replies that are left. There is no result
where the replies were used up. -/
structure Session (α : Type) where
  questions : List HttpRequest
  result : Option (Except Fault α)
  replies : List HttpReply
  /-- The delays between questions for a round. -/
  sleeps : List Duration

namespace Session

def done {α : Type} (result : Except Fault α) (replies : List HttpReply) : Session α :=
  ⟨[], some result, replies, []⟩

def ask {α : Type} (question : HttpRequest) (read : HttpReply → Except Fault α) :
    List HttpReply → Session α
  | [] => ⟨[question], none, [], []⟩
  | reply :: replies => ⟨[question], some (read reply), replies, []⟩

/-- A session, and a next one if it succeeds. -/
def andThen {α β : Type} (s : Session α) (next : α → List HttpReply → Session β) : Session β :=
  match s.result with
  | none => ⟨s.questions, none, s.replies, s.sleeps⟩
  | some (.error e) => ⟨s.questions, some (.error e), s.replies, s.sleeps⟩
  | some (.ok a) =>
    let t := next a s.replies
    ⟨s.questions ++ t.questions, t.result, t.replies, s.sleeps ++ t.sleeps⟩

end Session

namespace Provider

def submit (p : Provider) (request : Request) (replies : List HttpReply) :
    Session (Option RequestId) :=
  match Codec.encode request with
  | .error e => .done (.error (.attestation e)) replies
  | .ok data => .ask (p.submitQuestion data) (p.submitted data) replies

def askRound (p : Provider) (round : UInt64) (replies : List HttpReply) : Session Bool :=
  .ask (p.roundQuestion round) (p.finalized round) replies

/-- Asks for a round until it is final; `draw` chooses the jitter of the delays. -/
def awaitRound (p : Provider) (draw : UInt32 → Float) (round : UInt64)
    (replies : List HttpReply) : Session Unit :=
  let w := Poll.wait p.policy draw (replies.map (p.finalized round))
  let answered := replies.length - w.rest.length
  let asked := if w.result.isSome then answered else answered + 1
  ⟨List.replicate asked (p.roundQuestion round), w.result, replies.drop answered, w.sleeps⟩

def obtain (p : Provider) (round : UInt64) (data : Bytes) (replies : List HttpReply) :
    Session ProofReply :=
  .ask (p.proofQuestion round data) p.proof replies

def prove (p : Provider) (draw : UInt32 → Float) (request : Request)
    (replies : List HttpReply) : Session Outcome :=
  (p.submit request replies).andThen fun
    | none, replies => .done (.ok (.notProved .submitted)) replies
    | some id, replies =>
      (p.awaitRound draw id.round replies).andThen fun _ replies =>
        (p.obtain id.round id.data replies).andThen fun reply replies =>
          .done (.ok (Flow.outcome request id reply)) replies

end Provider

end Attestation
