import Mathlib
import Attestation.Bytes.Lemmas
import Attestation.Codec
import Attestation.Proofs.Access
import Attestation.Proofs.Except

/-!
One field. The bytes written for a value are as many as the field is wide and are read back as the
value it settles to (`decodeField_encodeField`), and what is read from bytes is written as these
bytes (`encodeField_decodeField`).
-/

namespace Attestation

/-- How a value comes back from a field: a numeral as the word it stands for, a byte string at the
width of the field. -/
inductive FieldValue.Settled (width : ℕ) : FieldValue → FieldValue → Prop
  | kind (k : Kind) : Settled width (.kind k) (.kind k)
  | source (s : Source) : Settled width (.source s) (.source s)
  | number {n : Numeral} {w : Word} (h : n.value = .ok w) :
      Settled width (.number n) (.number (.unsigned w))
  | bytes (b : Bytes) : Settled width (.bytes b) (.bytes (b.padLeft width))

namespace FieldValue

variable {width : ℕ}

lemma settled_kind_iff {j k : Kind} : (kind j).Settled width (kind k) ↔ k = j :=
  ⟨fun h => by cases h; rfl, fun h => h ▸ .kind k⟩

lemma settled_source_iff {s t : Source} : (source s).Settled width (source t) ↔ t = s :=
  ⟨fun h => by cases h; rfl, fun h => h ▸ .source t⟩

lemma settled_bytes_iff {x y : Bytes} :
    (bytes x).Settled width (bytes y) ↔ y = x.padLeft width :=
  ⟨fun h => by cases h; rfl, fun h => h ▸ .bytes x⟩

end FieldValue

namespace Codec

variable {s : Scheme} {f : RequestField} {v w : FieldValue} {b : Bytes}

lemma resolve_eq_ok_iff {n : Numeral} {key : String} {x : Word} :
    n.resolve key = .ok x ↔ n.value = .ok x := by
  cases h : n.value <;> simp [Numeral.resolve, Except.mapError, h]

lemma writeNumber_eq_ok_iff {n : Word} :
    writeNumber f n = .ok b ↔ n.toNat < 256 ^ f.width ∧ b = Bytes.ofNat f.width n.toNat := by
  rw [writeNumber]
  split
  · next h => simp [← Bytes.needed_le_iff, h]
  · next h => simp [← Bytes.needed_le_iff, Nat.not_lt.mp h, eq_comm]

lemma writeBytes_eq_ok_iff {x : Bytes} :
    writeBytes f x = .ok b ↔ x.length ≤ f.width ∧ b = x.padLeft f.width := by
  rw [writeBytes]
  split
  · next h => simpa using fun h' => absurd h' (by omega)
  · next h => simp [Nat.not_lt.mp h, eq_comm]

lemma toNat_of_writeNumber {n : Word} (h : writeNumber f n = .ok b) :
    b.length = f.width ∧ b.toNat = n.toNat := by
  obtain ⟨hn, rfl⟩ := writeNumber_eq_ok_iff.mp h
  exact ⟨Bytes.length_ofNat _ _, by rw [Bytes.toNat_ofNat, Nat.mod_eq_of_lt hn]⟩

lemma writeNumber_toNat (hb : b.length = f.width) (hw : f.width ≤ 32) :
    writeNumber f (BitVec.ofNat 256 b.toNat) = .ok b := by
  have ht : b.toNat < 256 ^ f.width := hb ▸ Bytes.toNat_lt b
  have hm : 256 ^ f.width ≤ 256 ^ 32 := Nat.pow_le_pow_right (by decide) hw
  have hn : (BitVec.ofNat 256 b.toNat).toNat = b.toNat := by
    rw [BitVec.toNat_ofNat, Nat.mod_eq_of_lt]
    norm_num at hm ⊢
    omega
  rw [writeNumber_eq_ok_iff, hn]
  exact ⟨ht, by rw [← hb, Bytes.ofNat_toNat]⟩

lemma length_encodeField (h : encodeField s f v = .ok b) : b.length = f.width := by
  cases hf : f.kind <;> cases v <;> simp only [encodeField, hf, reduceCtorEq] at h
  · exact (toNat_of_writeNumber h).1
  · exact (toNat_of_writeNumber h).1
  · obtain ⟨w, -, hw⟩ := Except.bind_eq_ok_iff.mp h
    exact (toNat_of_writeNumber hw).1
  · obtain ⟨hl, rfl⟩ := writeBytes_eq_ok_iff.mp h
    simp [hl]

lemma fieldKind_of_decodeField (h : decodeField s f b = .ok v) : v.fieldKind = f.kind := by
  cases hf : f.kind <;> simp only [decodeField, hf] at h
  · split at h
    · split at h <;> cases h
      rfl
    · cases h
  · split at h
    · split at h <;> cases h
      rfl
    · cases h
  · cases h
    rfl
  · cases h
    rfl

lemma eq_of_decodeField_bytes {x : Bytes} (h : decodeField s f b = .ok (.bytes x)) : x = b := by
  have hf := fieldKind_of_decodeField h
  simp only [FieldValue.fieldKind] at hf
  simpa [decodeField, ← hf, eq_comm] using h

lemma decodeField_encodeField (h : encodeField s f v = .ok b) :
    ∃ w, decodeField s f b = .ok w ∧ v.Settled f.width w := by
  cases hf : f.kind <;> cases v <;> simp only [encodeField, hf, reduceCtorEq] at h
  · next k =>
    have hb := (toNat_of_writeNumber h).2
    refine ⟨.kind k, ?_, .kind k⟩
    cases k <;> simp [decodeField, hf, hb] <;> rfl
  · next t =>
    have hb := (toNat_of_writeNumber h).2
    refine ⟨.source t, ?_, .source t⟩
    cases t <;> simp [decodeField, hf, hb] <;> rfl
  · next n =>
    obtain ⟨x, hx, hw⟩ := Except.bind_eq_ok_iff.mp h
    have hb := (toNat_of_writeNumber hw).2
    refine ⟨.number (.unsigned x), ?_, .number (resolve_eq_ok_iff.mp hx)⟩
    simp [decodeField, hf, hb, Numeral.ofNat]
  · next x =>
    obtain ⟨-, rfl⟩ := writeBytes_eq_ok_iff.mp h
    exact ⟨_, by simp only [decodeField, hf], .bytes x⟩

lemma encodeField_decodeField (h : decodeField s f b = .ok v) (hb : b.length = f.width)
    (hw : f.width ≤ 32) : encodeField s f v = .ok b := by
  have hn := writeNumber_toNat hb hw
  cases hf : f.kind <;> simp only [decodeField, hf] at h
  · split at h
    · next hl =>
      split at h
      · next k hk =>
        cases h
        have hi : k.id.toNat = b.toNat := by
          rw [Kind.ofId?_eq_some_iff.mp hk, UInt16.toNat_ofNat_of_lt' hl]
        simpa only [encodeField, hf, hi] using hn
      · cases h
    · cases h
  · split at h
    · next hl =>
      split at h
      · next t ht =>
        cases h
        have hi : t.id.toNat = b.toNat := by
          rw [Source.ofId?_eq_some_iff.mp ht, UInt32.toNat_ofNat_of_lt' hl]
        simpa only [encodeField, hf, hi] using hn
      · cases h
    · cases h
  · cases h
    simp only [encodeField, hf]
    exact Except.bind_eq_ok_iff.mpr ⟨_, resolve_eq_ok_iff.mpr rfl, hn⟩
  · cases h
    simp only [encodeField, hf]
    exact writeBytes_eq_ok_iff.mpr ⟨hb.le, (Bytes.padLeft_of_le hb.ge).symm⟩

end Codec

end Attestation
