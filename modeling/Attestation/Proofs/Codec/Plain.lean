import Mathlib
import Attestation.Proofs.Codec.IntegrityCode
import Attestation.Proofs.Codec.Written

/-!
Requests of words and of byte strings that fill their fields, such as the prover builds. They are
read back as they were, and nothing but a number that is too large for its field keeps them from
being written (`exists_encode_of_plain`, `encode_eq_error_of_plain`).
-/

namespace Attestation

/-- The error of the first number that is too large for its bytes, given with its key and their
count. -/
def overlong? (numbers : List (String × ℕ × ℕ)) : Option Error :=
  numbers.findSome? fun (key, width, n) =>
    if 256 ^ width ≤ n then some (.fieldTooLong key width (Bytes.needed n)) else none

lemma overlong?_eq_none_iff {numbers : List (String × ℕ × ℕ)} :
    overlong? numbers = none ↔ ∀ x ∈ numbers, x.2.2 < 256 ^ x.2.1 := by
  simp only [overlong?, List.findSome?_eq_none_iff, ite_eq_right_iff, reduceCtorEq, imp_false,
    not_le]

/-- Values that are read back as they were written. -/
inductive FieldValue.Plain (width : ℕ) : FieldValue → Prop
  | kind (k : Kind) : Plain width (.kind k)
  | source (t : Source) : Plain width (.source t)
  | word (w : Word) : Plain width (.number (.unsigned w))
  | bytes {b : Bytes} (hl : b.length = width) : Plain width (.bytes b)

/-- The error of a plain value that is too large for its field. -/
def RequestField.excess? (f : RequestField) : FieldValue → Option Error
  | .number (.unsigned w) =>
    if 256 ^ f.width ≤ w.toNat then some (.fieldTooLong f.key f.width (Bytes.needed w.toNat))
    else none
  | _ => none

namespace FieldValue.Plain

variable {width : ℕ} {f : RequestField} {v : FieldValue} {e : Error}

lemma settled (h : v.Plain width) : v.Settled width v := by
  cases h with
  | kind k => exact .kind k
  | source t => exact .source t
  | word w => exact .number rfl
  | bytes hl => exact settled_bytes_iff.mpr (Bytes.padLeft_of_le hl.ge).symm

lemma fits_iff (h : v.Plain f.width) : v.Fits f.width ↔ f.excess? v = none := by
  cases h with
  | kind k => exact iff_of_true trivial rfl
  | source t => exact iff_of_true trivial rfl
  | word w =>
    simp only [Fits, RequestField.excess?, ite_eq_right_iff, reduceCtorEq, imp_false, not_le]
    constructor
    · rintro ⟨w', hw, hlt⟩
      cases hw
      exact hlt
    · intro hlt
      exact ⟨w, rfl, hlt⟩
  | bytes hl => exact iff_of_true hl.le rfl

lemma offends (h : v.Plain f.width) (he : f.excess? v = some e) : v.Offends f e := by
  cases h with
  | word w =>
    obtain ⟨hle, he⟩ := Option.ite_none_right_eq_some.mp he
    cases he
    refine .large rfl (Bytes.needed_le_iff w.toNat) ?_
    rw [← not_le, Bytes.needed_le_iff, not_lt]
    exact hle
  | kind k => cases he
  | source t => cases he
  | bytes hl => cases he

end FieldValue.Plain

namespace Request

variable {r d : Request}

def Plain (r : Request) : Prop :=
  ∀ p ∈ r.fields, p.2.Plain p.1.width

lemma map_snd_fields (r : Request) : r.fields.map (·.2) = r.values :=
  List.map_snd_zip (length_values r).le

lemma Plain.settled (h : r.Plain) : r.Settled r := by
  change List.Forall₂ _ r.fields r.values
  rw [← map_snd_fields, List.forall₂_map_right_iff, List.forall₂_same]
  intro p hp
  exact (h p hp).settled

lemma values_inj (h : r.values = d.values) : r = d := by
  rcases r with ⟨source, code, body⟩
  rcases d with ⟨source', code', body'⟩
  simp only [values, List.cons_append, List.nil_append, List.cons.injEq, FieldValue.kind.injEq,
    FieldValue.source.injEq, FieldValue.bytes.injEq, Word.toBytes_inj] at h
  obtain ⟨hk, rfl, rfl, hbody⟩ := h
  obtain rfl : body = body' := RequestBody.values_inj hk hbody
  rfl

lemma Settled.unique {d' : Request} (h : r.Settled d) (h' : r.Settled d') : d = d' :=
  values_inj (List.right_unique_forall₂' (fun _ _ _ hx hy => hx.unique hy) h h')

end Request

namespace Codec

variable {r : Request} {b : Bytes} {e : Error}

lemma decode_of_plain (h : r.Plain) (he : encode r = .ok b) : decode b = .ok r := by
  obtain ⟨d, hd, hs, -⟩ := decode_of_encode he
  rwa [hs.unique h.settled] at hd

lemma exists_encode_of_plain (h : r.Plain)
    (hnone : r.fields.findSome? (fun p => p.1.excess? p.2) = none) :
    ∃ b, encode r = .ok b ∧ decode b = .ok r := by
  rw [List.findSome?_eq_none_iff] at hnone
  have hk : r.kind = r.kind.scheme.kind := rfl
  have hfits : ∀ p ∈ r.fields, p.2.Fits p.1.width :=
    fun p hp => (h p hp).fits_iff.mpr (hnone p hp)
  obtain ⟨b, hb⟩ := (exists_encodeFields_iff_fits hk fun p => Request.read?_of_mem_fields).mpr hfits
  rw [r.map_fst_fields, ← encode_eq] at hb
  exact ⟨b, hb, decode_of_plain h hb⟩

lemma encode_eq_error_of_plain (h : r.Plain)
    (hsome : r.fields.findSome? (fun p => p.1.excess? p.2) = some e) : encode r = .error e := by
  obtain ⟨earlier, p, later, hfields, hfound, hearlier⟩ := List.findSome?_eq_some_iff.mp hsome
  have hk : r.kind = r.kind.scheme.kind := rfl
  have hplain {q : RequestField × FieldValue} (hq : q ∈ earlier ++ p :: later) :
      q.2.Plain q.1.width := h q (hfields ▸ hq)
  rw [encode_eq, ← r.map_fst_fields]
  refine (encodeFields_eq_error_iff hk fun p => Request.read?_of_mem_fields).mpr
    ⟨earlier, p, later, hfields, fun q hq => ?_, ?_⟩
  · exact (hplain (List.mem_append_left _ hq)).fits_iff.mpr (hearlier q hq)
  · exact (hplain (List.mem_append_right _ List.mem_cons_self)).offends hfound

end Codec

namespace Request

variable {source : Source} {hash destination reference : Hash}
  {block inUtxo utxo amount first last timestamp : ℕ}

lemma plain_payment : (payment source hash block inUtxo utxo).Plain := by
  have hcode := FieldValue.Plain.bytes (Word.length_toBytes Hash.zero)
  have hid := FieldValue.Plain.bytes (Word.length_toBytes hash)
  intro p hp
  fin_cases hp
  · exact .kind _
  · exact .source _
  · exact hcode
  · exact hid
  all_goals exact .word _

lemma plain_nonexistence :
    (nonexistence source destination reference amount first last timestamp).Plain := by
  have hcode := FieldValue.Plain.bytes (Word.length_toBytes Hash.zero)
  have hdestination := FieldValue.Plain.bytes (Word.length_toBytes destination)
  have hreference := FieldValue.Plain.bytes (Word.length_toBytes reference)
  intro p hp
  fin_cases hp
  · exact .kind _
  · exact .source _
  · exact hcode
  · exact .word _
  · exact .word _
  · exact .word _
  · exact hdestination
  · exact .word _
  · exact hreference

lemma toNat_ofNat_word {n : ℕ} (hn : n < 2 ^ 256) : (BitVec.ofNat 256 n).toNat = n :=
  Nat.mod_eq_of_lt hn

lemma excess?_payment (source : Source) (hash : Hash) (hblock : block < 2 ^ 256)
    (hin : inUtxo < 2 ^ 256) (hutxo : utxo < 2 ^ 256) :
    (payment source hash block inUtxo utxo).fields.findSome? (fun p => p.1.excess? p.2) =
      overlong? [("blockNumber", 4, block), ("inUtxo", 1, inUtxo), ("utxo", 1, utxo)] := by
  change overlong? [("blockNumber", 4, (BitVec.ofNat 256 block).toNat),
    ("inUtxo", 1, (BitVec.ofNat 256 inUtxo).toNat), ("utxo", 1, (BitVec.ofNat 256 utxo).toNat)] = _
  rw [toNat_ofNat_word hblock, toNat_ofNat_word hin, toNat_ofNat_word hutxo]

lemma excess?_nonexistence (source : Source) (destination reference : Hash)
    (hfirst : first < 2 ^ 256) (hlast : last < 2 ^ 256) (htimestamp : timestamp < 2 ^ 256)
    (hamount : amount < 2 ^ 128) :
    (nonexistence source destination reference amount first last timestamp).fields.findSome?
        (fun p => p.1.excess? p.2) =
      overlong? [("minimalBlockNumber", 4, first), ("deadlineBlockNumber", 4, last),
        ("deadlineTimestamp", 4, timestamp)] := by
  have hword : amount < 2 ^ 256 := hamount.trans (by decide)
  have hfits : overlong? [("amount", 16, amount)] = none := by
    rw [overlong?, List.findSome?_singleton]
    exact if_neg (not_le.mpr hamount)
  change overlong? ([("minimalBlockNumber", 4, (BitVec.ofNat 256 first).toNat),
    ("deadlineBlockNumber", 4, (BitVec.ofNat 256 last).toNat),
    ("deadlineTimestamp", 4, (BitVec.ofNat 256 timestamp).toNat)] ++
    [("amount", 16, (BitVec.ofNat 256 amount).toNat)]) = _
  rw [toNat_ofNat_word hfirst, toNat_ofNat_word hlast, toNat_ofNat_word htimestamp,
    toNat_ofNat_word hword, overlong?, List.findSome?_append]
  change (overlong? _).or (overlong? [("amount", 16, amount)]) = _
  rw [hfits, Option.or_none]

end Request

end Attestation
