import Attestation.Response

/-!
Preimages of response hashes: one word of 32 bytes for every field, the kind, the source and the
round in front. A salt follows as the one value of varying length: its position among the words, and
behind them its length and its bytes, padded to whole words.
-/

namespace Attestation

namespace Word

def ofNat (n : Nat) : Word :=
  BitVec.ofNat 256 n

def ofBool (b : Bool) : Word :=
  if b then 1 else 0

end Word

namespace ResponseBody

def words : ResponseBody → List Word
  | payment f =>
    [.ofNat f.blockNumber.toNat, .ofNat f.blockTimestamp.toNat, f.transactionHash,
     .ofNat f.inUtxo.toNat, .ofNat f.utxo.toNat, f.sourceAddressHash, f.receivingAddressHash,
     f.spentAmount, f.receivedAmount, f.paymentReference, .ofBool f.oneToOne,
     .ofNat f.status.toNat]
  | balanceDecreasing f =>
    [.ofNat f.blockNumber.toNat, .ofNat f.blockTimestamp.toNat, f.transactionHash,
     .ofNat f.inUtxo.toNat, f.sourceAddressHash, f.spentAmount, f.paymentReference]
  | blockHeight f =>
    [.ofNat f.blockNumber.toNat, .ofNat f.blockTimestamp.toNat,
     .ofNat f.numberOfConfirmations.toNat, .ofNat f.averageBlockProductionTimeMs.toNat,
     .ofNat f.lowestQueryWindowBlockNumber.toNat, .ofNat f.lowestQueryWindowBlockTimestamp.toNat]
  | nonexistence f =>
    [.ofNat f.deadlineBlockNumber.toNat, .ofNat f.deadlineTimestamp.toNat,
     f.destinationAddressHash, f.paymentReference, .ofNat f.amount.toNat,
     .ofNat f.lowerBoundaryBlockNumber.toNat, .ofNat f.lowerBoundaryBlockTimestamp.toNat,
     .ofNat f.firstOverflowBlockNumber.toNat, .ofNat f.firstOverflowBlockTimestamp.toNat]

end ResponseBody

namespace Preimage

def words (body : ResponseBody) (kind : Kind) (source : Source) (round : UInt64) : List Word :=
  .ofNat kind.id.toNat :: .ofNat source.id.toNat :: .ofNat round.toNat :: body.words

def ofWords (ws : List Word) : Bytes :=
  ws.flatMap Word.toBytes

/-- The salt behind `count` words: where it starts, its length and its bytes. -/
def salting (count : Nat) (salt : String) : Bytes :=
  let b := Bytes.ofText salt
  ofWords [.ofNat (32 * (count + 1)), .ofNat b.length] ++ Bytes.padRight 32 b

def of (body : ResponseBody) (kind : Kind) (source : Source) (round : UInt64)
    (salt : Option String) : Bytes :=
  let ws := words body kind source round
  match salt with
  | none => ofWords ws
  | some s => ofWords ws ++ salting ws.length s

end Preimage

end Attestation
