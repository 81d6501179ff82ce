import Attestation.Codec
import Attestation.Oracle
import Attestation.Validation
import Attestation.Verification

/-!
An oracle network in memory. Requests are filed into the current round. Closing a round validates
its requests against a ledger, puts the hashes of the valid responses into a Merkle tree and opens
the next round; closed rounds stay as they are.
-/

namespace Attestation

inductive Mode
  /-- Behind every submission. -/
  | auto
  /-- Only when they are told to. -/
  | manual
  deriving DecidableEq, Repr

structure ClosedRound where
  /-- The binary forms of the requests in the order in which they came. -/
  filed : List Bytes
  root : Option Hash
  /-- Valid responses by the binary forms of their requests. -/
  responses : List (Bytes × Response)
  deriving DecidableEq, Repr

def ClosedRound.response? (r : ClosedRound) (data : Bytes) : Option Response :=
  r.responses.lookup data

structure Network where
  mode : Mode
  salt : String
  /-- Rounds 1, 2, … -/
  closed : List ClosedRound
  filed : List Bytes
  rejecting : Bool
  withholding : Bool
  /-- How many submissions were accepted. -/
  submissions : Nat
  closed_lt : closed.length + 1 < UInt64.size

namespace Network

def start (mode : Mode) (salt : String) : Network :=
  ⟨mode, salt, [], [], false, false, 0, by decide⟩

def current (n : Network) : UInt64 :=
  UInt64.ofNat (n.closed.length + 1)

def round? (n : Network) (round : UInt64) : Option ClosedRound :=
  if round = 0 then none else n.closed[round.toNat - 1]?

def isFinalized (n : Network) (round : UInt64) : Bool :=
  (n.round? round).isSome

/-- The root of a closed round that has a valid response. -/
def root? (n : Network) (round : UInt64) : Option Hash :=
  (n.round? round).bind (·.root)

def response? (n : Network) (round : UInt64) (data : Bytes) : Option Response :=
  (n.round? round).bind (·.response? data)

/-- Files a request, unless the network rejects it. The handle names the round in which it lies. -/
def file (n : Network) (request : Request) : Except Error (Option RequestId × Network) := do
  let data ← Codec.encode request
  if n.rejecting then return (none, n)
  return (some ⟨n.current, data⟩,
    { n with filed := n.filed ++ [data], submissions := n.submissions + 1 })

/-- Whether the integrity code of a request, if it has one, is that of a response. -/
def integrityHolds (salt : String) (request : Request) (response : Response) : Bool :=
  request.integrityCode == Hash.zero ||
    match integrityCode request response salt with
    | .ok code => code == request.integrityCode
    | .error _ => false

/-- The response to a filed request in a round, with the hash that goes into the tree. -/
def validate (salt : String) (c : Chain) (round : UInt64) (data : Bytes) :
    Option (Response × Hash) := do
  let request ← (Codec.decode data).toOption
  let response ← expectedResponse c request
  guard (integrityHolds salt request response)
  let leaf ← (responseHash request (response.withRound round) none).toOption.bind
    ResponseHash.hash?
  return (response.withRound round, leaf)

def closeRound (salt : String) (c : Chain) (round : UInt64) (filed : List Bytes) : ClosedRound :=
  let valid := filed.filterMap fun data => (validate salt c round data).map (data, ·)
  let tree := Merkle.Tree.build (valid.map (·.2.2))
  { filed
    root := tree.root?
    responses := valid.map fun (data, response, leaf) =>
      (data, response.withProof ((tree.proofOf? leaf).getD [])) }

/-- Closes the current round, as long as there is a number for the next one. -/
def finalize (n : Network) (c : Chain) : Network :=
  if room : n.closed.length + 2 < UInt64.size then
    { n with
      closed := n.closed ++ [closeRound n.salt c n.current n.filed]
      filed := []
      closed_lt := by simpa using room }
  else n

/-- Files a request and, where rounds close by themselves, closes its round. -/
def submit (n : Network) (c : Chain) (request : Request) :
    Except Error (Option RequestId × Network) := do
  let (id, filed) ← n.file request
  return (id, if id.isSome ∧ n.mode = .auto then filed.finalize c else filed)

/-- The reply to a question for a proof. A network that withholds proofs takes them out. -/
def obtain (n : Network) (round : UInt64) (data : Bytes) : ProofReply :=
  if n.isFinalized round then
    let response := n.response? round data
    ⟨true, if n.withholding then response.map Response.withoutProof else response⟩
  else .pending

def setRejecting (n : Network) (on : Bool) : Network :=
  { n with rejecting := on }

def setWithholding (n : Network) (on : Bool) : Network :=
  { n with withholding := on }

end Network

end Attestation
