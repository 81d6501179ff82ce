import Attestation.Error
import Attestation.Hash

/-!
Source ledgers: blocks, transactions that move amounts between addresses, and the look-ups through
which a ledger is seen. On a ledger of accounts a transaction has one input and one output.
-/

namespace Attestation

structure BlockId where
  number : UInt64
  hash : Hash
  deriving DecidableEq, Repr

structure Block where
  number : UInt64
  hash : Hash
  /-- In seconds. -/
  timestamp : UInt64
  transactions : List Hash
  deriving DecidableEq, Repr

def Block.id (b : Block) : BlockId :=
  ⟨b.number, b.hash⟩

structure Entry where
  address : Option String
  /-- In the smallest unit of the ledger. -/
  value : BitVec 128
  deriving DecidableEq, Repr

inductive TransactionStatus
  | success | senderFailure | receiverFailure
  deriving DecidableEq, Repr

namespace TransactionStatus

def all : List TransactionStatus :=
  [success, senderFailure, receiverFailure]

def code : TransactionStatus → UInt8
  | success => 0
  | senderFailure => 1
  | receiverFailure => 2

def name : TransactionStatus → String
  | success => "Success"
  | senderFailure => "SenderFailure"
  | receiverFailure => "ReceiverFailure"

def ofName? (s : String) : Option TransactionStatus :=
  all.find? (·.name == s)

def ofCode? (n : UInt8) : Option TransactionStatus :=
  all.find? (·.code == n)

end TransactionStatus

structure Transaction where
  hash : Hash
  inputs : List Entry
  outputs : List Entry
  reference : Option Hash
  status : TransactionStatus
  deriving DecidableEq, Repr

/-- An address as it stands in requests and responses. -/
def addressHash (address : String) : Hash :=
  keccak (Bytes.ofText address)

/-- The first entry of an address, or the given one where no address is asked for. -/
def entryIndex? (entries : List Entry) (address : Option String) (default : Nat) : Option Nat :=
  match address with
  | none => some default
  | some a => entries.findIdx? (·.address == some a)

/-- The number that lies so far ahead; numbers stop at the last one of 64 bits. -/
def ahead (number distance : UInt64) : UInt64 :=
  if number.toNat + distance.toNat < UInt64.size then number + distance else 0xFFFFFFFFFFFFFFFF

theorem toNat_ahead (number distance : UInt64) :
    (ahead number distance).toNat = min (number.toNat + distance.toNat) (UInt64.size - 1) := by
  unfold ahead
  split
  · next h => rw [UInt64.toNat_add, Nat.mod_eq_of_lt h]; omega
  · next h => rw [Nat.min_eq_right (by omega)]; rfl

/-- A ledger as it is seen from outside. A look-up finds something, or nothing, or fails. -/
structure Ledger where
  source : Source
  /-- How many blocks have to follow one before it is final. -/
  confirmations : UInt64
  transaction : Hash → Except Fault (Option Transaction)
  blockOf : Hash → Except Fault (Option BlockId)
  block : UInt64 → Except Fault (Option Block)
  /-- The number of the newest block. -/
  height : Except Fault UInt64

namespace Ledger

/-- A ledger that knows some blocks by their numbers and some transactions with the numbers of their
blocks. The named look-ups fail. -/
def ofTables (source : Source) (confirmations height : UInt64) (blocks : List Block)
    (transactions : List (Transaction × Option UInt64)) (faults : List (String × Fault)) :
    Ledger :=
  let found {α : Type} (lookup : String) (a : α) : Except Fault α :=
    match faults.lookup lookup with
    | some f => .error f
    | none => .ok a
  let entry (hash : Hash) := transactions.reverse.find? (·.1.hash == hash)
  { source
    confirmations
    transaction := fun hash => found "get_transaction" ((entry hash).map (·.1))
    blockOf := fun hash => found "get_transaction_block"
      (((entry hash).bind (·.2)).map (⟨·, Hash.zero⟩))
    block := fun number => found "get_block_at" (blocks.reverse.find? (·.number == number))
    height := found "get_block_height" height }

end Ledger

end Attestation
