import Mathlib
import Attestation.Proofs.Codec.Guarded

/-!
Main statement: what becomes of bytes is settled by the id of the kind in front, their length and
the id of the source, in this order; each has its error, and all other bytes encode a request.
-/

namespace Attestation

lemma Source.ofId?_eq_none_iff {n : UInt32} : ofId? n = none ↔ 4 < n := by
  simp only [ofId?, all, List.find?_eq_none, List.forall_mem_cons, id, beq_iff_eq,
    UInt32.lt_iff_toNat_lt, ← UInt32.toNat_inj]
  simp
  omega

lemma Kind.ofId?_eq_none_iff {n : UInt16} : ofId? n = none ↔ n ∉ [1, 2, 3, 4] := by
  simp only [ofId?, all, List.find?_eq_none, id, beq_iff_eq, List.mem_cons, not_or, @eq_comm _ n]
  simp

namespace Codec

variable {b : Bytes} {k : Kind}

/-- The id of the source, behind the id of the kind. -/
def statedSource (b : Bytes) : UInt32 :=
  UInt32.ofNat (Bytes.toNat ((b.drop 2).take 4))

lemma decodeField_kind {s : Scheme} (hb : 2 ≤ b.length) (hi : leadingId b = k.id) :
    decodeField s ⟨"attestationType", 2, .attestationType⟩ (b.take 2) = .ok (.kind k) := by
  have hn : Bytes.toNat (b.take 2) < UInt16.size := by
    simpa [hb] using Bytes.toNat_lt (b.take 2)
  have hk : Kind.ofId? (UInt16.ofNat (Bytes.toNat (b.take 2))) = some k :=
    Kind.ofId?_eq_some_iff.mpr hi.symm
  simp only [decodeField, if_pos hn, hk]

lemma decodeField_source {s : Scheme} (hb : 6 ≤ b.length) :
    decodeField s ⟨"sourceId", 4, .sourceId⟩ ((b.drop 2).take 4) =
      (Source.ofId? (statedSource b)).elim
        (.error (.unsupportedSource s.kind.id (statedSource b))) fun t => .ok (.source t) := by
  have hl : ((b.drop 2).take 4).length = 4 := by simp; omega
  have hn : Bytes.toNat ((b.drop 2).take 4) < UInt32.size := by
    simpa [hl] using Bytes.toNat_lt ((b.drop 2).take 4)
  simp only [decodeField, if_pos hn, statedSource]
  cases Source.ofId? (UInt32.ofNat (Bytes.toNat ((b.drop 2).take 4))) <;> rfl

lemma body_fields (k : Kind) :
    ∀ f ∈ ⟨"messageIntegrityCode", 32, .bytes⟩ :: (Definition.of k).request,
      f.kind = .number ∨ f.kind = .bytes := by
  cases k <;> decide

-- Behind the two ids no value is refused, so the source decides.
lemma decodeFields_scheme (hb : b.length = k.scheme.size) (hi : leadingId b = k.id) :
    (4 < statedSource b → decodeFields k.scheme k.scheme.request b (.blank k) =
      .error (.unsupportedSource k.id (statedSource b))) ∧
    (statedSource b ≤ 4 → ∃ r, decodeFields k.scheme k.scheme.request b (.blank k) = .ok r) := by
  have hk : (Request.blank k).kind = k.scheme.kind := Request.kind_blank k
  have hl := k.layout
  have hs : 6 ≤ k.scheme.size := by cases k <;> decide
  rw [Scheme.size_eq] at hb hs
  rw [show k.scheme.request = ⟨"attestationType", 2, .attestationType⟩ ::
    ⟨"sourceId", 4, .sourceId⟩ :: ⟨"messageIntegrityCode", 32, .bytes⟩ ::
      (Definition.of k).request from rfl] at hl hb hs ⊢
  have hv := decodeField_kind (s := k.scheme) (by omega) hi
  obtain ⟨d, hd⟩ := exists_write?_decoded hl hk (by simp; omega) hv (by simp; rfl)
  have hdk : d.kind = k.scheme.kind := (Request.kind_write? hd).trans hk
  have ht := decodeField_source (s := k.scheme) (by omega : 6 ≤ b.length)
  simp only [decodeFields_cons hk, hv, Except.ok_bind, hd, Option.elim_some, decodeFields_cons hdk]
  rw [ht]
  refine ⟨fun h => by rw [Source.ofId?_eq_none_iff.mpr h]; rfl, fun h => ?_⟩
  cases hsrc : Source.ofId? (statedSource b) with
  | none => exact absurd (Source.ofId?_eq_none_iff.mp hsrc) (UInt32.not_lt.mpr h)
  | some t =>
    rw [hsrc] at ht
    obtain ⟨e, he⟩ := exists_write?_decoded hl.tail hdk (by simp; omega) ht (by simp)
    simp only [Option.elim_some, Except.ok_bind, he]
    exact decodeFields_total hl.tail.tail ((Request.kind_write? he).trans hdk) (body_fields k)
      (by simp at hb ⊢; omega)

lemma decode_of_short (h : b.length < 2) : decode b = .error (.malformedRequest 2 b.length) := by
  rw [decode_eq, if_pos (show b.length < kindWidth from h), kindWidth]

lemma decode_of_unknown (hb : 2 ≤ b.length) (hi : leadingId b ∉ [1, 2, 3, 4]) :
    decode b = .error (.unsupportedKind (leadingId b)) := by
  rw [decode_eq, if_neg (show ¬ b.length < kindWidth from Nat.not_lt.mpr hb),
    Kind.ofId?_eq_none_iff.mpr hi, Option.elim_none]

lemma decode_of_known (hb : 2 ≤ b.length) (hi : leadingId b = k.id) : decode b =
    if b.length = k.scheme.size then decodeFields k.scheme k.scheme.request b (.blank k)
    else .error (.malformedRequest k.scheme.size b.length) := by
  rw [decode_eq, if_neg (show ¬ b.length < kindWidth from Nat.not_lt.mpr hb), hi, Kind.ofId?_id,
    Option.elim_some]

lemma code_of_decode {e : Error} (h : decode b = .error e) :
    e.code ∈ ["MalformedRequest", "UnsupportedAttestationType", "UnsupportedSource"] := by
  rcases Nat.lt_or_ge b.length 2 with hb | hb
  · cases (decode_of_short hb).symm.trans h
    simp [Error.code]
  by_cases hi : leadingId b ∈ [1, 2, 3, 4]
  · obtain ⟨k, hk⟩ : ∃ k, Kind.ofId? (leadingId b) = some k :=
      Option.ne_none_iff_exists'.mp fun hn => Kind.ofId?_eq_none_iff.mp hn hi
    have hi := (Kind.ofId?_eq_some_iff.mp hk).symm
    rw [decode_of_known hb hi] at h
    split at h
    · next hs =>
      obtain ⟨he, ho⟩ := decodeFields_scheme hs hi
      rcases UInt32.lt_or_le 4 (statedSource b) with ht | ht
      · cases (he ht).symm.trans h
        simp [Error.code]
      · obtain ⟨r, hr⟩ := ho ht
        cases hr.symm.trans h
    · cases h
      simp [Error.code]
  · cases (decode_of_unknown hb hi).symm.trans h
    simp [Error.code]

theorem decode_verdict (b : Bytes) :
    (b.length < 2 → decode b = .error (.malformedRequest 2 b.length)) ∧
    (2 ≤ b.length → leadingId b ∉ [1, 2, 3, 4] →
      decode b = .error (.unsupportedKind (leadingId b))) ∧
    (∀ k : Kind, 2 ≤ b.length → leadingId b = k.id →
      (b.length ≠ (k.scheme.request.map (·.width)).sum →
        decode b = .error (.malformedRequest (k.scheme.request.map (·.width)).sum b.length)) ∧
      (b.length = (k.scheme.request.map (·.width)).sum →
        (4 < statedSource b → decode b = .error (.unsupportedSource k.id (statedSource b))) ∧
        (statedSource b ≤ 4 → ∃ r, decode b = .ok r))) ∧
    ((∃ r, decode b = .ok r) ↔ ∃ r, encode r = .ok b) ∧
    (∀ name flaw, decode b ≠ .error (.invalidScheme name flaw)) ∧
    (∀ key, decode b ≠ .error (.missingField key)) ∧
    Guarded.decode? b = some (decode b) := by
  refine ⟨decode_of_short, decode_of_unknown, fun k hb hi => ?_, ⟨?_, ?_⟩, fun name flaw h => ?_,
    fun key h => ?_, Guarded.decode?_eq b⟩
  · rw [decode_of_known hb hi, ← Scheme.size_eq]
    refine ⟨fun hs => if_neg hs, fun hs => ?_⟩
    rw [if_pos hs]
    exact decodeFields_scheme hs hi
  · rintro ⟨r, hr⟩
    exact ⟨r, encode_of_decode hr⟩
  · rintro ⟨r, hr⟩
    obtain ⟨d, hd, -⟩ := decode_of_encode hr
    exact ⟨d, hd⟩
  · exact absurd (code_of_decode h) (by simp [Error.code])
  · exact absurd (code_of_decode h) (by simp [Error.code])

end Codec

end Attestation
