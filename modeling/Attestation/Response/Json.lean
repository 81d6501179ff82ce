import Attestation.Json.Format
import Attestation.Json.Quantity
import Attestation.Response

/-!
Responses as JSON. The fields of the body stand beside the round and the proof in one object, and
`attestationType` tells which fields they are. Members with other names are ignored.
-/

namespace Attestation

namespace PaymentResponse

def names : List String :=
  ["blockNumber", "blockTimestamp", "transactionHash", "inUtxo", "utxo", "sourceAddressHash",
   "receivingAddressHash", "spentAmount", "receivedAmount", "paymentReference", "oneToOne",
   "status"]

def ofJson? (j : Json) : Option PaymentResponse := do
  let [blockNumber, blockTimestamp, transactionHash, inUtxo, utxo, sourceAddressHash,
    receivingAddressHash, spentAmount, receivedAmount, paymentReference, oneToOne, status] ←
    j.fields? names names.length | none
  return {
    blockNumber := ← Json.need Json.uint64? blockNumber
    blockTimestamp := ← Json.need Json.uint64? blockTimestamp
    transactionHash := ← Json.need Json.hash? transactionHash
    inUtxo := ← Json.need Json.uint8? inUtxo
    utxo := ← Json.need Json.uint8? utxo
    sourceAddressHash := ← Json.need Json.hash? sourceAddressHash
    receivingAddressHash := ← Json.need Json.hash? receivingAddressHash
    spentAmount := ← Json.need Json.int256? spentAmount
    receivedAmount := ← Json.need Json.int256? receivedAmount
    paymentReference := ← Json.need Json.hash? paymentReference
    oneToOne := ← Json.need Json.bool? oneToOne
    status := ← Json.need Json.uint8? status }

def members (r : PaymentResponse) : List (String × Json) :=
  [("blockNumber", .nat r.blockNumber.toNat),
   ("blockTimestamp", .nat r.blockTimestamp.toNat),
   ("transactionHash", .hash r.transactionHash),
   ("inUtxo", .nat r.inUtxo.toNat),
   ("utxo", .nat r.utxo.toNat),
   ("sourceAddressHash", .hash r.sourceAddressHash),
   ("receivingAddressHash", .hash r.receivingAddressHash),
   ("spentAmount", .int256 r.spentAmount),
   ("receivedAmount", .int256 r.receivedAmount),
   ("paymentReference", .hash r.paymentReference),
   ("oneToOne", .bool r.oneToOne),
   ("status", .nat r.status.toNat)]

end PaymentResponse

namespace BalanceDecreasingResponse

def names : List String :=
  ["blockNumber", "blockTimestamp", "transactionHash", "inUtxo", "sourceAddressHash",
   "spentAmount", "paymentReference"]

def ofJson? (j : Json) : Option BalanceDecreasingResponse := do
  let [blockNumber, blockTimestamp, transactionHash, inUtxo, sourceAddressHash, spentAmount,
    paymentReference] ← j.fields? names names.length | none
  return {
    blockNumber := ← Json.need Json.uint64? blockNumber
    blockTimestamp := ← Json.need Json.uint64? blockTimestamp
    transactionHash := ← Json.need Json.hash? transactionHash
    inUtxo := ← Json.need Json.uint8? inUtxo
    sourceAddressHash := ← Json.need Json.hash? sourceAddressHash
    spentAmount := ← Json.need Json.int256? spentAmount
    paymentReference := ← Json.need Json.hash? paymentReference }

def members (r : BalanceDecreasingResponse) : List (String × Json) :=
  [("blockNumber", .nat r.blockNumber.toNat),
   ("blockTimestamp", .nat r.blockTimestamp.toNat),
   ("transactionHash", .hash r.transactionHash),
   ("inUtxo", .nat r.inUtxo.toNat),
   ("sourceAddressHash", .hash r.sourceAddressHash),
   ("spentAmount", .int256 r.spentAmount),
   ("paymentReference", .hash r.paymentReference)]

end BalanceDecreasingResponse

namespace BlockHeightResponse

def names : List String :=
  ["blockNumber", "blockTimestamp", "numberOfConfirmations", "averageBlockProductionTimeMs",
   "lowestQueryWindowBlockNumber", "lowestQueryWindowBlockTimestamp"]

def ofJson? (j : Json) : Option BlockHeightResponse := do
  let [blockNumber, blockTimestamp, numberOfConfirmations, averageBlockProductionTimeMs,
    lowestQueryWindowBlockNumber, lowestQueryWindowBlockTimestamp] ←
    j.fields? names names.length | none
  return {
    blockNumber := ← Json.need Json.uint64? blockNumber
    blockTimestamp := ← Json.need Json.uint64? blockTimestamp
    numberOfConfirmations := ← Json.need Json.uint8? numberOfConfirmations
    averageBlockProductionTimeMs := ← Json.need Json.uint64? averageBlockProductionTimeMs
    lowestQueryWindowBlockNumber := ← Json.need Json.uint64? lowestQueryWindowBlockNumber
    lowestQueryWindowBlockTimestamp := ← Json.need Json.uint64? lowestQueryWindowBlockTimestamp }

def members (r : BlockHeightResponse) : List (String × Json) :=
  [("blockNumber", .nat r.blockNumber.toNat),
   ("blockTimestamp", .nat r.blockTimestamp.toNat),
   ("numberOfConfirmations", .nat r.numberOfConfirmations.toNat),
   ("averageBlockProductionTimeMs", .nat r.averageBlockProductionTimeMs.toNat),
   ("lowestQueryWindowBlockNumber", .nat r.lowestQueryWindowBlockNumber.toNat),
   ("lowestQueryWindowBlockTimestamp", .nat r.lowestQueryWindowBlockTimestamp.toNat)]

end BlockHeightResponse

namespace NonexistenceResponse

def names : List String :=
  ["deadlineBlockNumber", "deadlineTimestamp", "destinationAddressHash", "paymentReference",
   "amount", "lowerBoundaryBlockNumber", "lowerBoundaryBlockTimestamp",
   "firstOverflowBlockNumber", "firstOverflowBlockTimestamp"]

def ofJson? (j : Json) : Option NonexistenceResponse := do
  let [deadlineBlockNumber, deadlineTimestamp, destinationAddressHash, paymentReference, amount,
    lowerBoundaryBlockNumber, lowerBoundaryBlockTimestamp, firstOverflowBlockNumber,
    firstOverflowBlockTimestamp] ← j.fields? names names.length | none
  return {
    deadlineBlockNumber := ← Json.need Json.uint64? deadlineBlockNumber
    deadlineTimestamp := ← Json.need Json.uint64? deadlineTimestamp
    destinationAddressHash := ← Json.need Json.hash? destinationAddressHash
    paymentReference := ← Json.need Json.hash? paymentReference
    amount := ← Json.need Json.uint128? amount
    lowerBoundaryBlockNumber := ← Json.need Json.uint64? lowerBoundaryBlockNumber
    lowerBoundaryBlockTimestamp := ← Json.need Json.uint64? lowerBoundaryBlockTimestamp
    firstOverflowBlockNumber := ← Json.need Json.uint64? firstOverflowBlockNumber
    firstOverflowBlockTimestamp := ← Json.need Json.uint64? firstOverflowBlockTimestamp }

def members (r : NonexistenceResponse) : List (String × Json) :=
  [("deadlineBlockNumber", .nat r.deadlineBlockNumber.toNat),
   ("deadlineTimestamp", .nat r.deadlineTimestamp.toNat),
   ("destinationAddressHash", .hash r.destinationAddressHash),
   ("paymentReference", .hash r.paymentReference),
   ("amount", .uint128 r.amount),
   ("lowerBoundaryBlockNumber", .nat r.lowerBoundaryBlockNumber.toNat),
   ("lowerBoundaryBlockTimestamp", .nat r.lowerBoundaryBlockTimestamp.toNat),
   ("firstOverflowBlockNumber", .nat r.firstOverflowBlockNumber.toNat),
   ("firstOverflowBlockTimestamp", .nat r.firstOverflowBlockTimestamp.toNat)]

end NonexistenceResponse

namespace ResponseBody

/-- The body of a kind from its fields alone. -/
def ofFields? (j : Json) : Kind → Option ResponseBody
  | .payment => (PaymentResponse.ofJson? j).map payment
  | .balanceDecreasingTransaction => (BalanceDecreasingResponse.ofJson? j).map balanceDecreasing
  | .confirmedBlockHeightExists => (BlockHeightResponse.ofJson? j).map blockHeight
  | .referencedPaymentNonexistence => (NonexistenceResponse.ofJson? j).map nonexistence

def kindName : String := "attestationType"

/-- The members of an object without those that have a name. -/
def without (names : List String) (members : List (String × Json)) : List (String × Json) :=
  members.filter fun m => !names.contains m.1

/-- A body by itself: the name of its kind and its fields, in an object or by position. -/
def ofJson? : Json → Option ResponseBody
  | .object members => do
    let kind ← Json.need Json.string? (← Json.memberOf? members kindName)
    ofFields? (.object (without [kindName] members)) (← Kind.ofName? kind)
  | .array (.string kind :: fields) => do ofFields? (.array fields) (← Kind.ofName? kind)
  | _ => none

def members : ResponseBody → List (String × Json)
  | payment f => f.members
  | balanceDecreasing f => f.members
  | blockHeight f => f.members
  | nonexistence f => f.members

def toJson (b : ResponseBody) : Json :=
  .object ((kindName, .string b.kind.name) :: b.members)

/-- The kind may come last, so nothing is known of a value before all are read. -/
def format : Json.Format ResponseBody := ⟨.value, ofJson?, toJson⟩

end ResponseBody

namespace Response

/-- Among the members of a response the kind may also be given by its place in the list of all. -/
def kind? : Json → Option Kind
  | .string s => Kind.ofName? s
  | .number (.whole false n) => Kind.all[n]?
  | _ => none

def ofJson? : Json → Option Response
  | .object members => do
    let round ← Json.memberOf? members "stateConnectorRound"
    let proof ← Json.memberOf? members "merkleProof"
    let kind ← Json.need kind? (← Json.memberOf? members ResponseBody.kindName)
    let fields := ResponseBody.without
      ["stateConnectorRound", "merkleProof", ResponseBody.kindName] members
    return {
      round := ← Json.orElse (Json.option? Json.uint64?) none round
      proof := ← Json.orElse (Json.option? (Json.list? Json.hash?)) none proof
      body := ← ResponseBody.ofFields? (.object fields) kind }
  | _ => none

def toJson (r : Response) : Json :=
  .object <|
    ("stateConnectorRound", Json.option (fun n : UInt64 => .nat n.toNat) r.round) ::
    ("merkleProof", Json.option (fun hs => .array (hs.map Json.hash)) r.proof) ::
    (ResponseBody.kindName, .string r.kind.name) :: r.body.members

def shape : Json.Shape :=
  .record [("stateConnectorRound", .value), ("merkleProof", .option (.list .hash))] true

def format : Json.Format Response := ⟨shape, ofJson?, toJson⟩

end Response

end Attestation
