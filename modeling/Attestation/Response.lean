import Attestation.Request

/-!
Attestation responses: what the oracle network found for a request, the round in which it did, and
the proof that the round contains it.
-/

namespace Attestation

structure PaymentResponse where
  blockNumber : UInt64
  blockTimestamp : UInt64
  transactionHash : Hash
  inUtxo : UInt8
  utxo : UInt8
  sourceAddressHash : Hash
  receivingAddressHash : Hash
  /-- Two's complement. -/
  spentAmount : Word
  /-- Two's complement. -/
  receivedAmount : Word
  paymentReference : Hash
  oneToOne : Bool
  status : UInt8
  deriving DecidableEq, Inhabited, Repr

structure BalanceDecreasingResponse where
  blockNumber : UInt64
  blockTimestamp : UInt64
  transactionHash : Hash
  inUtxo : UInt8
  sourceAddressHash : Hash
  /-- Two's complement. -/
  spentAmount : Word
  paymentReference : Hash
  deriving DecidableEq, Inhabited, Repr

structure BlockHeightResponse where
  blockNumber : UInt64
  blockTimestamp : UInt64
  numberOfConfirmations : UInt8
  averageBlockProductionTimeMs : UInt64
  lowestQueryWindowBlockNumber : UInt64
  lowestQueryWindowBlockTimestamp : UInt64
  deriving DecidableEq, Inhabited, Repr

structure NonexistenceResponse where
  deadlineBlockNumber : UInt64
  deadlineTimestamp : UInt64
  destinationAddressHash : Hash
  paymentReference : Hash
  amount : BitVec 128
  lowerBoundaryBlockNumber : UInt64
  lowerBoundaryBlockTimestamp : UInt64
  firstOverflowBlockNumber : UInt64
  firstOverflowBlockTimestamp : UInt64
  deriving DecidableEq, Inhabited, Repr

inductive ResponseBody
  | payment (fields : PaymentResponse)
  | balanceDecreasing (fields : BalanceDecreasingResponse)
  | blockHeight (fields : BlockHeightResponse)
  | nonexistence (fields : NonexistenceResponse)
  deriving DecidableEq, Repr

def ResponseBody.kind : ResponseBody → Kind
  | payment _ => .payment
  | balanceDecreasing _ => .balanceDecreasingTransaction
  | blockHeight _ => .confirmedBlockHeightExists
  | nonexistence _ => .referencedPaymentNonexistence

structure Response where
  round : Option UInt64
  /-- Sibling hashes up to the root of the round; none until they are fetched. -/
  proof : Option (List Hash)
  body : ResponseBody
  deriving DecidableEq, Repr

namespace Response

def kind (r : Response) : Kind :=
  r.body.kind

def pending (body : ResponseBody) : Response :=
  ⟨none, none, body⟩

def withRound (r : Response) (round : UInt64) : Response :=
  { r with round := some round }

def withProof (r : Response) (proof : List Hash) : Response :=
  { r with proof := some proof }

def withoutProof (r : Response) : Response :=
  { r with proof := none }

def hasProof (r : Response) : Bool :=
  r.proof.isSome

end Response

end Attestation
