import Attestation.Chain
import Attestation.Response

/-!
What a ledger says to a request: the response that follows from its blocks and transactions, or
nothing where the request does not hold. The subject has to be on the ledger and confirmed.
-/

namespace Attestation

namespace Entry

/-- Amounts are counted up to this one. -/
def amountLimit : Nat := (1 <<< 127) - 1

/-- The sum of the entries whose address is of a kind. -/
def total (entries : List Entry) (belongs : String → Bool) : Nat :=
  (entries.filter fun e => e.address.any belongs).foldr (·.value.toNat + ·) 0

end Entry

namespace Transaction

/-- What the outputs give to addresses of a kind less what the inputs take from them, where each of
the two counts up to the limit. -/
def balanceChange (t : Transaction) (belongs : String → Bool) : Int :=
  (min (Entry.total t.outputs belongs) Entry.amountLimit : Nat) -
    (min (Entry.total t.inputs belongs) Entry.amountLimit : Nat)

/-- What the transaction takes from an address; no address loses anything. -/
def spent (t : Transaction) (address : Option String) : Int :=
  -t.balanceChange fun a => some a == address

/-- What the transaction gives to an address: nothing, if it failed. -/
def received (t : Transaction) (address : Option String) : Int :=
  if t.status = .success then t.balanceChange fun a => some a == address else 0

/-- Whether the source is the only address that pays, and nobody but the receiver is paid, change
apart. -/
def isOneToOne (t : Transaction) (source receiver : Option String) : Bool :=
  t.inputs.all (·.address == source) &&
    t.outputs.all fun e => e.address == receiver || e.address == source

/-- Whether a successful transaction with a reference pays an amount to an address with a hash. -/
def pays (t : Transaction) (reference destination : Hash) (amount : Nat) : Bool :=
  t.status == .success && t.reference == some reference &&
    decide ((amount : Int) ≤ t.balanceChange fun a => addressHash a == destination)

end Transaction

namespace Validation

/-- The hash of an address, zero where there is none. -/
def hashOrZero (address : Option String) : Hash :=
  (address.map addressHash).getD Hash.zero

def amount (i : Int) : Word :=
  BitVec.ofInt 256 i

def uint64? (n : Numeral) (key : String) : Option UInt64 :=
  (n.resolve64 key).toOption

/-- The number as an index of eight bits. -/
def index? (n : Numeral) (key : String) : Option UInt8 := do
  let i ← uint64? n key
  if i < 256 then some i.toUInt8 else none

/-- The confirmed transaction with an id, its block having the given number. -/
def confirmed? (c : Chain) (id : Bytes) (blockNumber : Numeral) : Option (Transaction × Block) := do
  let hash ← Hash.ofBytes? id
  let (t, number) ← c.transaction? hash
  let n ← uint64? blockNumber "blockNumber"
  guard (number = n ∧ c.isConfirmed number)
  return (t, ← c.block? number)

def payment? (c : Chain) (r : PaymentRequest) : Option PaymentResponse := do
  let (t, block) ← confirmed? c r.id r.blockNumber
  let inUtxo ← index? r.inUtxo "inUtxo"
  let utxo ← index? r.utxo "utxo"
  let source := (← t.inputs[inUtxo.toNat]?).address
  let receiver := (← t.outputs[utxo.toNat]?).address
  return {
    blockNumber := block.number
    blockTimestamp := block.timestamp
    transactionHash := t.hash
    inUtxo
    utxo
    sourceAddressHash := hashOrZero source
    receivingAddressHash := hashOrZero receiver
    spentAmount := amount (t.spent source)
    receivedAmount := amount (t.received receiver)
    paymentReference := t.reference.getD Hash.zero
    oneToOne := t.isOneToOne source receiver
    status := t.status.code }

def balanceDecreasing? (c : Chain) (r : BalanceDecreasingRequest) :
    Option BalanceDecreasingResponse := do
  let (t, block) ← confirmed? c r.id r.blockNumber
  let inUtxo ← index? r.inUtxo "inUtxo"
  let source := (← t.inputs[inUtxo.toNat]?).address
  return {
    blockNumber := block.number
    blockTimestamp := block.timestamp
    transactionHash := t.hash
    inUtxo
    sourceAddressHash := hashOrZero source
    spentAmount := amount (t.spent source)
    paymentReference := t.reference.getD Hash.zero }

/-- The newest block below a number that is stamped no later than a time. -/
def lowest? (c : Chain) (number timestamp : UInt64) : Option Block :=
  ((c.pages.take number.toNat).reverse.find? (·.timestamp ≤ timestamp)).map Page.block

def averageTime (lowest block : Block) : UInt64 :=
  let elapsed := (block.timestamp - lowest.timestamp).toNat * 1000
  UInt64.ofNat (min elapsed (UInt64.size - 1)) / (block.number - lowest.number)

/-- The query window begins at the newest block that is at least the window older. -/
def blockHeight? (c : Chain) (r : BlockHeightRequest) : Option BlockHeightResponse := do
  let number ← uint64? r.blockNumber "blockNumber"
  let window ← uint64? r.queryWindow "queryWindow"
  guard (c.isConfirmed number)
  let block ← c.block? number
  guard (window ≤ block.timestamp)
  let lowest ← lowest? c number (block.timestamp - window)
  return {
    blockNumber := number
    blockTimestamp := block.timestamp
    numberOfConfirmations := UInt8.ofNat (min c.confirmations.toNat 255)
    averageBlockProductionTimeMs := averageTime lowest block
    lowestQueryWindowBlockNumber := lowest.number
    lowestQueryWindowBlockTimestamp := lowest.timestamp }

/-- The transactions of the blocks from `first` up to below `past`. Of transactions with one hash
the one that was mined last is looked at. -/
def transactionsBetween (c : Chain) (first past : UInt64) : List Transaction :=
  ((c.pages.take past.toNat).drop first.toNat).flatMap fun p =>
    p.transactions.filterMap fun t => (c.transaction? t.hash).map (·.1)

/-- Holds if no transaction in the window, which the overflow block ends, pays the amount. -/
def nonexistence? (c : Chain) (r : NonexistenceRequest) : Option NonexistenceResponse := do
  let minimal ← uint64? r.minimalBlockNumber "minimalBlockNumber"
  let deadlineBlock ← uint64? r.deadlineBlockNumber "deadlineBlockNumber"
  let deadlineTimestamp ← uint64? r.deadlineTimestamp "deadlineTimestamp"
  let amount ← (r.amount.resolve "amount").toOption
  guard (amount.toNat < 1 <<< 128)
  let destination ← Hash.ofBytes? r.destinationAddressHash
  let reference ← Hash.ofBytes? r.paymentReference
  guard (minimal ≤ deadlineBlock ∧ reference ≠ Hash.zero)
  let lower ← c.block? minimal
  let overflow ← c.firstOverflow? deadlineBlock deadlineTimestamp
  guard (c.isConfirmed overflow.number)
  guard (!(transactionsBetween c minimal overflow.number).any
    (·.pays reference destination amount.toNat))
  return {
    deadlineBlockNumber := deadlineBlock
    deadlineTimestamp
    destinationAddressHash := destination
    paymentReference := reference
    amount := BitVec.ofNat 128 amount.toNat
    lowerBoundaryBlockNumber := lower.number
    lowerBoundaryBlockTimestamp := lower.timestamp
    firstOverflowBlockNumber := overflow.number
    firstOverflowBlockTimestamp := overflow.timestamp }

def body? (c : Chain) : RequestBody → Option ResponseBody
  | .payment r => (payment? c r).map .payment
  | .balanceDecreasing r => (balanceDecreasing? c r).map .balanceDecreasing
  | .blockHeight r => (blockHeight? c r).map .blockHeight
  | .nonexistence r => (nonexistence? c r).map .nonexistence

end Validation

def expectedResponse (c : Chain) (r : Request) : Option Response :=
  if r.source = c.source then (Validation.body? c r.body).map .pending else none

end Attestation
