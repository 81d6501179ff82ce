import Attestation.Merkle
import Attestation.Preimage

/-!
Hashes of responses, integrity codes of anticipated responses, and the check that a proven response
is in a round.
-/

namespace Attestation

/-- The salt of integrity codes on the public oracle network. -/
def standardSalt : String := "Flare"

inductive ResponseHash
  | complete (hash : Hash)
  | incomplete (missing : List String)
  deriving DecidableEq, Repr

def ResponseHash.hash? : ResponseHash → Option Hash
  | complete hash => some hash
  | incomplete _ => none

/-- The hash of a response to a request. Only a response without a round is incomplete. -/
def responseHash (request : Request) (response : Response) (salt : Option String) :
    Except Error ResponseHash :=
  if response.kind ≠ request.kind then
    .error (.responseMismatch request.kind.id response.kind.id)
  else
    match response.round with
    | none => .ok (.incomplete ["stateConnectorRound"])
    | some round =>
      .ok (.complete (keccak (Preimage.of response.body request.kind request.source round salt)))

/-- The salted hash of an anticipated response. Who anticipates it cannot know the round, so the
round counts as zero. -/
def integrityCode (request : Request) (anticipated : Response) (salt : String) :
    Except Error Hash := do
  match ← responseHash request (anticipated.withRound 0) (some salt) with
  | .complete hash => return hash
  | .incomplete _ => throw (.missingField "stateConnectorRound")

/-- Whether a response is proven to be under a root. Without a round or a proof it is not. -/
def verifyAttestation (request : Request) (response : Response) (root : Hash) :
    Except Error Bool := do
  match ← responseHash request response none, response.proof with
  | .complete leaf, some proof => return Merkle.verify leaf proof root
  | _, _ => return false

end Attestation
