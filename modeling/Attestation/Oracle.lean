import Attestation.Json
import Attestation.Response

/-!
What passes between a prover and the oracle network: handles of submitted requests, and the replies
to questions for proofs.
-/

namespace Attestation

structure RequestId where
  round : UInt64
  /-- The binary form of the request. -/
  data : Bytes
  deriving DecidableEq, Repr

structure ProofReply where
  finalized : Bool
  result : Option Response
  deriving DecidableEq, Repr

def ProofReply.pending : ProofReply :=
  ⟨false, none⟩

end Attestation
