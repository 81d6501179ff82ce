import Mathlib
import Attestation.Proofs.Codec.Fields

/-!
Requests are the same when their values settle to the same (`same_iff`): numerals with a value to
their word, byte strings to their padded form, and what cannot be written to itself. A value is
written as what it settles to, so the same requests are written alike.
-/

namespace Attestation

def Numeral.settle (n : Numeral) : Numeral :=
  match n.value with
  | .ok x => .unsigned x
  | .error _ => n

def FieldValue.settle (width : ℕ) : FieldValue → FieldValue
  | kind k => kind k
  | source s => source s
  | number n => number n.settle
  | bytes b => bytes (b.padLeft width)

lemma Numeral.settle_of_value {n : Numeral} {x : Word} (h : n.value = .ok x) :
    n.settle = .unsigned x := by
  simp only [settle, h]

@[simp] lemma Numeral.value_settle (n : Numeral) : n.settle.value = n.value := by
  unfold settle
  split
  · next x h => rw [h, value]
  · rfl

lemma Numeral.same_iff {m n : Numeral} : m.same n = true ↔ m.settle = n.settle := by
  constructor
  · intro h
    cases hm : m.value <;> cases hn : n.value <;>
      simp only [same, hm, hn, beq_iff_eq, decide_eq_true_eq, Bool.false_eq_true] at h
    · exact h ▸ rfl
    · simp only [settle, hm, hn, h]
  · intro h
    have hv : m.value = n.value := by rw [← value_settle m, h, value_settle]
    cases hm : m.value with
    | ok x => simp [same, hm, ← hv]
    | error e =>
      simp only [settle, hm, ← hv] at h
      simp [same, ← h, hm]

lemma FieldValue.Settled.settle_eq {width : ℕ} {v w : FieldValue} (h : v.Settled width w) :
    v.settle width = w.settle width := by
  cases h with
  | kind k => rfl
  | source s => rfl
  | number h => exact congrArg FieldValue.number (Numeral.settle_of_value h)
  | bytes b => simp [settle, Bytes.padLeft_of_le]

namespace Codec

variable {s : Scheme} {fs : List RequestField} {a b : Request} {v w : FieldValue}

lemma sameBytes_iff {width : ℕ} {x y : Bytes} :
    sameBytes width x y = true ↔ x.padLeft width = y.padLeft width := by
  rw [sameBytes]
  split
  · next h =>
    refine ⟨fun he => by rw [beq_iff_eq.mp he], fun he => beq_iff_eq.mpr ?_⟩
    have hl := congrArg List.length he
    simp only [Bytes.length_padLeft] at hl
    rwa [Bytes.padLeft_of_le (by omega), Bytes.padLeft_of_le (by omega)] at he
  · exact beq_iff_eq

lemma sameValue_iff {width : ℕ} : sameValue width v w = true ↔ v.settle width = w.settle width := by
  cases v <;> cases w <;>
    simp [sameValue, FieldValue.settle, Numeral.same_iff, sameBytes_iff]

lemma encodeField_settle (s : Scheme) (f : RequestField) (v : FieldValue) :
    encodeField s f (v.settle f.width) = encodeField s f v := by
  cases v with
  | number n => cases hf : f.kind <;> simp [encodeField, FieldValue.settle, hf, Numeral.resolve]
  | bytes x =>
    cases hf : f.kind <;> simp only [encodeField, FieldValue.settle, hf]
    by_cases hx : x.length ≤ f.width
    · simp [writeBytes, hx, Bytes.padLeft_of_le]
    · rw [Bytes.padLeft_of_le (by omega)]
  | kind k => rfl
  | source t => rfl

lemma encode_eq (r : Request) : encode r = encodeFields r.kind.scheme r r.kind.scheme.request := by
  have hs : r.kind.scheme.supports r.source = true := by
    cases r.kind <;> cases r.source <;> rfl
  rw [encode, encodeBy, requireSource, if_pos hs, Except.ok_bind]

lemma same_iff : same a b = true ↔ a.kind = b.kind ∧ ∀ f ∈ a.kind.scheme.request,
    (a.read? f.key).map (·.settle f.width) = (b.read? f.key).map (·.settle f.width) := by
  rw [same, Bool.and_eq_true, beq_iff_eq, List.all_eq_true]
  refine and_congr_right fun hk => forall₂_congr fun f hf => ?_
  obtain ⟨v, hv⟩ := Request.exists_read?_of_mem hf
  obtain ⟨w, hw⟩ := Request.exists_read?_of_mem (hk ▸ hf)
  obtain ⟨g, hg, hv'⟩ := Option.bind_eq_some_iff.mp hv
  have hw' : g.get b = some w := by simpa [Request.read?, ← hk, hg] using hw
  simp [hg, hv, hw, hv', hw', sameValue_iff]

lemma same_equivalence : Equivalence fun a b => same a b = true where
  refl a := same_iff.mpr ⟨rfl, fun f _ => rfl⟩
  symm h := by
    obtain ⟨hk, hf⟩ := same_iff.mp h
    exact same_iff.mpr ⟨hk.symm, fun f hm => (hf f (hk ▸ hm)).symm⟩
  trans h h' := by
    obtain ⟨hk, hf⟩ := same_iff.mp h
    obtain ⟨hk', hf'⟩ := same_iff.mp h'
    exact same_iff.mpr ⟨hk.trans hk', fun f hm => (hf f hm).trans (hf' f (hk ▸ hm))⟩

lemma encodeFields_congr (ha : a.kind = s.kind) (hb : b.kind = s.kind)
    (h : ∀ f ∈ fs, (a.read? f.key).map (·.settle f.width) = (b.read? f.key).map (·.settle f.width)) :
    encodeFields s a fs = encodeFields s b fs := by
  induction fs with
  | nil => rfl
  | cons f fs ih =>
    rw [List.forall_mem_cons] at h
    rw [encodeFields_cons ha, encodeFields_cons hb, ih h.2]
    cases hv : a.read? f.key <;> cases hw : b.read? f.key <;> simp [hv, hw] at h ⊢
    rw [← encodeField_settle s f, h.1, encodeField_settle]

lemma encode_eq_of_same (h : same a b = true) : encode a = encode b := by
  obtain ⟨hk, hf⟩ := same_iff.mp h
  rw [encode_eq, encode_eq, ← hk]
  exact encodeFields_congr rfl hk.symm hf

lemma map_settle_of_beq (h : (a == b) = true) (width : ℕ) :
    a.values.map (·.settle width) = b.values.map (·.settle width) := by
  have hb : ∀ x y : Bytes, List.beq x y = true ↔ x = y := fun x y => beq_iff_eq (a := x)
  rcases a with ⟨s, c, f | f | f | f⟩ <;> rcases b with ⟨t, d, g | g | g | g⟩ <;>
    simp only [BEq.beq, instBEqRequest.beq, instBEqRequestBody.beq, instBEqPaymentRequest.beq,
      instBEqBalanceDecreasingRequest.beq, instBEqBlockHeightRequest.beq,
      instBEqNonexistenceRequest.beq, hb, Numeral.same_iff, Bool.and_eq_true, decide_eq_true_eq,
      Bool.and_false, Bool.false_eq_true] at h
  all_goals
    simp [Request.values, RequestBody.values, Request.kind, RequestBody.kind, FieldValue.settle, h]

lemma same_of_beq (h : (a == b) = true) : same a b = true := by
  have hk : a.kind = b.kind := by
    have hv := congrArg List.head? (map_settle_of_beq h 0)
    simpa [Request.values, FieldValue.settle] using hv
  refine same_iff.mpr ⟨hk, fun f hf => ?_⟩
  obtain ⟨i, hi⟩ := List.getElem?_of_mem hf
  rw [Request.read?_eq hi, Request.read?_eq (hk ▸ hi), ← List.getElem?_map, ← List.getElem?_map,
    map_settle_of_beq h]

end Codec

end Attestation
