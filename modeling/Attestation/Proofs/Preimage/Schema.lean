import Mathlib
import Attestation.Proofs.Preimage
import Attestation.Response.Json
import Attestation.Scheme

/-!
Main statement: a preimage is what the scheme declares. Each field that the scheme lists for the
response hash is one word, in the order of the list: the value that the response has under the key
of the field, as the type of the field has it. A salt follows as the one value of varying length.
-/

namespace Attestation

/-- A value that enters a hash. -/
inductive AbiValue
  | uint {bits : ℕ} (n : BitVec bits)
  | int {bits : ℕ} (z : BitVec bits)
  | bytes32 (h : Hash)
  | bool (b : Bool)

namespace AbiValue

def type : AbiValue → String
  | @uint bits _ => "uint" ++ toString bits
  | @int bits _ => "int" ++ toString bits
  | bytes32 _ => "bytes32"
  | bool _ => "bool"

/-- The bytes of a value: numbers most significant byte first, negative ones in two's complement,
hashes as they are. -/
inductive Encoded : AbiValue → Bytes → Prop
  | uint {bits : ℕ} {n : BitVec bits} {b : Bytes} (hl : b.length = 32) (hb : b.toNat = n.toNat) :
    Encoded (.uint n) b
  | int {bits : ℕ} {z : BitVec bits} {b : Bytes} (hl : b.length = 32)
    (hb : (b.toNat : ℤ) = z.toInt % 2 ^ 256) : Encoded (.int z) b
  | bytes32 (h : Hash) : Encoded (.bytes32 h) (Word.toBytes h)
  | bool {t : Bool} {b : Bytes} (hl : b.length = 32) (hb : b.toNat = t.toNat) : Encoded (.bool t) b

/-- How a value is shown in a response. -/
inductive Shown : AbiValue → Json → Prop
  | uint {bits : ℕ} (n : BitVec bits) : Shown (.uint n) (.nat n.toNat)
  | quantity (n : BitVec 128) : Shown (.uint n) (.uint128 n)
  | int (z : Word) : Shown (.int z) (.int256 z)
  | bytes32 (h : Hash) : Shown (.bytes32 h) (.hash h)
  | bool (b : Bool) : Shown (.bool b) (.bool b)

end AbiValue

namespace ResponseBody

/-- The values of a response under their names. -/
def named : ResponseBody → List (String × AbiValue)
  | payment f =>
    [("blockNumber", .uint f.blockNumber.toBitVec),
     ("blockTimestamp", .uint f.blockTimestamp.toBitVec),
     ("transactionHash", .bytes32 f.transactionHash),
     ("inUtxo", .uint f.inUtxo.toBitVec),
     ("utxo", .uint f.utxo.toBitVec),
     ("sourceAddressHash", .bytes32 f.sourceAddressHash),
     ("receivingAddressHash", .bytes32 f.receivingAddressHash),
     ("spentAmount", .int f.spentAmount),
     ("receivedAmount", .int f.receivedAmount),
     ("paymentReference", .bytes32 f.paymentReference),
     ("oneToOne", .bool f.oneToOne),
     ("status", .uint f.status.toBitVec)]
  | balanceDecreasing f =>
    [("blockNumber", .uint f.blockNumber.toBitVec),
     ("blockTimestamp", .uint f.blockTimestamp.toBitVec),
     ("transactionHash", .bytes32 f.transactionHash),
     ("inUtxo", .uint f.inUtxo.toBitVec),
     ("sourceAddressHash", .bytes32 f.sourceAddressHash),
     ("spentAmount", .int f.spentAmount),
     ("paymentReference", .bytes32 f.paymentReference)]
  | blockHeight f =>
    [("blockNumber", .uint f.blockNumber.toBitVec),
     ("blockTimestamp", .uint f.blockTimestamp.toBitVec),
     ("numberOfConfirmations", .uint f.numberOfConfirmations.toBitVec),
     ("averageBlockProductionTimeMs", .uint f.averageBlockProductionTimeMs.toBitVec),
     ("lowestQueryWindowBlockNumber", .uint f.lowestQueryWindowBlockNumber.toBitVec),
     ("lowestQueryWindowBlockTimestamp", .uint f.lowestQueryWindowBlockTimestamp.toBitVec)]
  | nonexistence f =>
    [("deadlineBlockNumber", .uint f.deadlineBlockNumber.toBitVec),
     ("deadlineTimestamp", .uint f.deadlineTimestamp.toBitVec),
     ("destinationAddressHash", .bytes32 f.destinationAddressHash),
     ("paymentReference", .bytes32 f.paymentReference),
     ("amount", .uint f.amount),
     ("lowerBoundaryBlockNumber", .uint f.lowerBoundaryBlockNumber.toBitVec),
     ("lowerBoundaryBlockTimestamp", .uint f.lowerBoundaryBlockTimestamp.toBitVec),
     ("firstOverflowBlockNumber", .uint f.firstOverflowBlockNumber.toBitVec),
     ("firstOverflowBlockTimestamp", .uint f.firstOverflowBlockTimestamp.toBitVec)]

/-- All values of a response hash under their names. -/
def hashed (b : ResponseBody) (source : Source) (round : UInt64) : List (String × AbiValue) :=
  ("attestationType", .uint b.kind.id.toBitVec) :: ("sourceId", .uint source.id.toBitVec) ::
  ("stateConnectorRound", .uint (round.toBitVec.setWidth 256)) :: b.named

lemma shown_named (b : ResponseBody) :
    List.Forall₂ (fun x m => x.1 = m.1 ∧ x.2.Shown m.2) b.named b.members := by
  cases b <;> repeat' constructor

end ResponseBody

@[simp] lemma Word.toNat_toBytes (w : Word) : (toBytes w).toNat = w.toNat := by
  rw [toBytes, Bytes.toNat_ofNat]
  exact Nat.mod_eq_of_lt w.isLt

namespace AbiValue

variable {bits : ℕ}

lemma encoded_uint (n : BitVec bits) (hn : bits ≤ 256) :
    (uint n).Encoded (Word.toBytes (.ofNat n.toNat)) := by
  have hlt : n.toNat < 2 ^ 256 := n.isLt.trans_le (Nat.pow_le_pow_right (by decide) hn)
  refine .uint (Word.length_toBytes _) ?_
  rw [Word.toNat_toBytes, Word.ofNat, BitVec.toNat_ofNat, Nat.mod_eq_of_lt hlt]

lemma encoded_int (z : Word) : (int z).Encoded (Word.toBytes z) := by
  refine .int (Word.length_toBytes _) ?_
  have hz := z.isLt
  rw [Word.toNat_toBytes, BitVec.toInt_eq_toNat_cond]
  split <;> omega

lemma encoded_bool (b : Bool) : (bool b).Encoded (Word.toBytes (Word.ofBool b)) := by
  refine .bool (Word.length_toBytes _) ?_
  rw [Word.toNat_toBytes]
  cases b <;> rfl

end AbiValue

lemma ResponseBody.encoded_named (b : ResponseBody) :
    List.Forall₂ (fun x w => x.2.Encoded (Word.toBytes w)) b.named b.words := by
  have h8 (n : UInt8) := AbiValue.encoded_uint n.toBitVec (by decide)
  have h64 (n : UInt64) := AbiValue.encoded_uint n.toBitVec (by decide)
  have h128 (n : BitVec 128) := AbiValue.encoded_uint n (by decide)
  have hz := AbiValue.encoded_int
  have hb := AbiValue.encoded_bool
  cases b with
  | payment f =>
    simp only [named, words, List.forall₂_cons, List.forall₂_nil_left_iff]
    exact ⟨h64 _, h64 _, .bytes32 _, h8 _, h8 _, .bytes32 _, .bytes32 _, hz _, hz _, .bytes32 _,
      hb _, h8 _, trivial⟩
  | balanceDecreasing f =>
    simp only [named, words, List.forall₂_cons, List.forall₂_nil_left_iff]
    exact ⟨h64 _, h64 _, .bytes32 _, h8 _, .bytes32 _, hz _, .bytes32 _, trivial⟩
  | blockHeight f =>
    simp only [named, words, List.forall₂_cons, List.forall₂_nil_left_iff]
    exact ⟨h64 _, h64 _, h8 _, h64 _, h64 _, h64 _, trivial⟩
  | nonexistence f =>
    simp only [named, words, List.forall₂_cons, List.forall₂_nil_left_iff]
    exact ⟨h64 _, h64 _, .bytes32 _, .bytes32 _, h128 _, h64 _, h64 _, h64 _, h64 _, trivial⟩

namespace ResponseBody

lemma encoded_hashed (b : ResponseBody) (source : Source) (round : UInt64) :
    List.Forall₂ (fun x w => x.2.Encoded (Word.toBytes w)) (b.hashed source round)
      (Preimage.words b b.kind source round) := by
  have hround : (round.toBitVec.setWidth 256).toNat = round.toNat :=
    BitVec.toNat_setWidth_of_le (by decide)
  refine .cons (AbiValue.encoded_uint _ (by decide)) <|
    .cons (AbiValue.encoded_uint _ (by decide)) <| .cons ?_ b.encoded_named
  rw [← hround]
  exact AbiValue.encoded_uint _ le_rfl

/-- Each field of the scheme finds its value under its key, and the value has the type of the
field. -/
lemma lookup_hashed (b : ResponseBody) (source : Source) (round : UInt64) :
    List.Forall₂ (fun f x => (b.hashed source round).lookup f.key = some x.2 ∧ x.2.type = f.type)
      (Scheme.responseHeader ++ b.kind.scheme.response) (b.hashed source round) := by
  cases b <;> repeat' constructor

end ResponseBody

lemma forall₂_comp {α β γ : Type} {R : α → β → Prop} {S : β → γ → Prop} {xs : List α}
    {ys : List β} {zs : List γ} (hR : List.Forall₂ R xs ys) (hS : List.Forall₂ S ys zs) :
    List.Forall₂ (fun x z => ∃ y, R x y ∧ S y z) xs zs := by
  induction hR generalizing zs with
  | nil =>
    cases hS
    exact .nil
  | cons h _ ih =>
    cases hS with
    | cons h' hS => exact .cons ⟨_, h, h'⟩ (ih hS)

namespace Preimage

/-- The fields of the scheme of a response hash. -/
def fields (k : Kind) : List ResponseField :=
  Scheme.responseHeader ++ k.scheme.response

lemma follows_fields (b : ResponseBody) (source : Source) (round : UInt64) :
    List.Forall₂ (fun f w => w.length = 32 ∧
        ∃ v, (b.hashed source round).lookup f.key = some v ∧ v.type = f.type ∧ v.Encoded w)
      (fields b.kind) ((words b b.kind source round).map Word.toBytes) := by
  rw [List.forall₂_map_right_iff]
  refine (forall₂_comp (b.lookup_hashed source round) (b.encoded_hashed source round)).imp ?_
  rintro f w ⟨x, ⟨hlookup, htype⟩, hw⟩
  exact ⟨Word.length_toBytes w, x.2, hlookup, htype, hw⟩

lemma length_fields_lt (k : Kind) : (fields k).length < 2 ^ 8 := by
  cases k <;> decide

lemma salting_eq {n : ℕ} (hn : n < 2 ^ 8) (salt : String) : ∃ (start size : Bytes) (k : ℕ),
    salting n salt = start ++ size ++ Bytes.ofText salt ++ List.replicate k 0 ∧
    start.length = 32 ∧ start.toNat = 32 * (n + 1) ∧
    size.length = 32 ∧ size.toNat = (Bytes.ofText salt).length % 2 ^ 256 ∧
    k < 32 ∧ 32 ∣ (Bytes.ofText salt).length + k := by
  refine ⟨Word.toBytes (.ofNat (32 * (n + 1))), Word.toBytes (.ofNat (Bytes.ofText salt).length),
    (32 - (Bytes.ofText salt).length % 32) % 32, ?_, Word.length_toBytes _, ?_,
    Word.length_toBytes _, ?_, by omega, by omega⟩
  · rw [salting, ofWords_cons, ofWords_cons, Bytes.padRight]
    simp [ofWords]
  · rw [Word.toNat_toBytes, Word.ofNat, BitVec.toNat_ofNat]
    omega
  · rw [Word.toNat_toBytes, Word.ofNat, BitVec.toNat_ofNat]

theorem follows_schema (b : ResponseBody) (source : Source) (round : UInt64) :
    (∃ ws, of b b.kind source round none = ws.flatten ∧
      List.Forall₂ (fun f w => w.length = 32 ∧
          ∃ v, (b.hashed source round).lookup f.key = some v ∧ v.type = f.type ∧ v.Encoded w)
        (fields b.kind) ws) ∧
    (∀ salt, ∃ (start size : Bytes) (k : ℕ),
      of b b.kind source round (some salt) = of b b.kind source round none ++ start ++ size ++
        Bytes.ofText salt ++ List.replicate k 0 ∧
      start.length = 32 ∧ start.toNat = 32 * ((fields b.kind).length + 1) ∧
      size.length = 32 ∧ size.toNat = (Bytes.ofText salt).length % 2 ^ 256 ∧
      k < 32 ∧ 32 ∣ (Bytes.ofText salt).length + k) ∧
    List.Forall₂ (fun x m => x.1 = m.1 ∧ x.2.Shown m.2) b.named b.members := by
  have hfields := follows_fields b source round
  refine ⟨⟨_, List.flatMap_def, hfields⟩, fun salt => ?_, b.shown_named⟩
  have hlength : (words b b.kind source round).length = (fields b.kind).length := by
    simpa using hfields.length_eq.symm
  obtain ⟨start, size, k, heq, hrest⟩ := salting_eq (length_fields_lt b.kind) salt
  refine ⟨start, size, k, ?_, hrest⟩
  simp only [of, hlength, heq, List.append_assoc]

end Preimage

end Attestation
