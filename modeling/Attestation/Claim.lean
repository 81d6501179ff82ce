import Attestation.Ledger
import Attestation.Verification

/-!
Claims about a ledger and the requests that stand for them. A claim is located on the ledger first:
its subject has to be there, and as many blocks behind it as make it final.
-/

namespace Attestation

namespace Ledger

/-- That a subject is not there, with the height at which it was looked for. -/
def notFound (l : Ledger) (subject : String) : Fault :=
  match l.height with
  | .ok height => .subjectNotFound subject height
  | .error e => e

def finalBlock (l : Ledger) (number : UInt64) : Except Fault Block := do
  let target := ahead number l.confirmations
  match ← l.block target with
  | some block => return block
  | none => throw (l.notFound s!"finalization block {target}")

def locate (l : Ledger) (hash : Hash) : Except Fault (Transaction × BlockId) := do
  let some transaction ← l.transaction hash
    | throw (l.notFound s!"transaction {hash.toText}")
  let some block ← l.blockOf hash
    | throw (l.notFound s!"block of transaction {hash.toText}")
  let _ ← l.finalBlock block.number
  return (transaction, block)

/-- The index of the entry with an address, the first one where no address is asked for. -/
def entryIndex (l : Ledger) (entries : List Entry) (address : Option String) :
    Except Fault Nat :=
  match entryIndex? entries address 0 with
  | some index => .ok index
  | none => .error (l.notFound ("address " ++ address.getD "" ++ " in transaction"))

/-- The first block from a number on that is stamped later than a time, before the first number that
has no block. -/
def laterFrom (l : Ledger) (timestamp number : UInt64) : Except Fault (Option Block) :=
  match l.block number with
  | .error e => .error e
  | .ok none => .ok none
  | .ok (some block) =>
    if timestamp < block.timestamp then .ok (some block)
    else if number.toNat + 1 < UInt64.size then laterFrom l timestamp (number + 1)
    else .ok none
termination_by UInt64.size - number.toNat
decreasing_by
  rename_i h
  rw [UInt64.toNat_add, UInt64.toNat_one, Nat.mod_eq_of_lt h]
  omega

/-- The first block behind a number that is stamped later than a time. -/
def overflowBlock (l : Ledger) (deadlineBlock deadlineTimestamp : UInt64) :
    Except Fault Block := do
  match ← l.laterFrom deadlineTimestamp (ahead deadlineBlock 1) with
  | some block => return block
  | none => throw (.overflowNotFound deadlineBlock deadlineTimestamp (← l.height))

end Ledger

inductive Claim
  /-- A transaction paid from an address to an address. -/
  | payment (hash : Hash) (source receiver : Option String)
  /-- A transaction took from the balance of an address. -/
  | balanceDecreasing (hash : Hash) (source : Option String)
  /-- The newest confirmed block exists; its time is averaged over a window of seconds. -/
  | blockHeight (window : UInt64)
  /-- From a block to a block, and up to a time, no payment of an amount with a reference came to an
  address. -/
  | nonexistence (destination : String) (reference : Hash) (amount : BitVec 128)
      (first last timestamp : UInt64)
  /-- What a request says. -/
  | prepared (request : Request)
  /-- What a request says, with the response that is expected. -/
  | anticipated (request : Request) (response : Response)
  deriving DecidableEq, Repr

namespace Claim

/-- An index as the number of a request, which has 64 bits. -/
def indexNumber (index : Nat) : Nat :=
  min index (UInt64.size - 1)

def paymentRequest (l : Ledger) (hash : Hash) (source receiver : Option String) :
    Except Fault Request := do
  let (transaction, block) ← l.locate hash
  let inUtxo ← l.entryIndex transaction.inputs source
  let utxo ← l.entryIndex transaction.outputs receiver
  return .payment l.source hash block.number.toNat (indexNumber inUtxo) (indexNumber utxo)

def balanceDecreasingRequest (l : Ledger) (hash : Hash) (source : Option String) :
    Except Fault Request := do
  let (transaction, block) ← l.locate hash
  let inUtxo ← l.entryIndex transaction.inputs source
  return .balanceDecreasing l.source hash block.number.toNat (indexNumber inUtxo)

/-- The newest confirmed block lies as far below the newest one as a block needs to be final. -/
def blockHeightRequest (l : Ledger) (window : UInt64) : Except Fault Request := do
  let height ← l.height
  let newest ← l.block height
  if newest.isNone ∨ height < l.confirmations then
    throw (.subjectNotFound "confirmed block" height)
  return .blockHeight l.source (height - l.confirmations).toNat window.toNat

/-- The window has to be closed by a final block behind both deadlines. -/
def nonexistenceRequest (l : Ledger) (destination : String) (reference : Hash)
    (amount : BitVec 128) (first last timestamp : UInt64) : Except Fault Request := do
  let overflow ← l.overflowBlock last timestamp
  let _ ← l.finalBlock overflow.number
  return .nonexistence l.source (addressHash destination) reference amount.toNat first.toNat
    last.toNat timestamp.toNat

/-- The request for a claim. The salt goes into the integrity code of an anticipated response. -/
def request (l : Ledger) (salt : String) : Claim → Except Fault Request
  | payment hash source receiver => paymentRequest l hash source receiver
  | balanceDecreasing hash source => balanceDecreasingRequest l hash source
  | blockHeight window => blockHeightRequest l window
  | nonexistence destination reference amount first last timestamp =>
    nonexistenceRequest l destination reference amount first last timestamp
  | prepared r => .ok r
  | anticipated r response =>
    match integrityCode r response salt with
    | .ok code => .ok (r.withIntegrityCode code)
    | .error e => .error (.attestation e)

end Claim

end Attestation
