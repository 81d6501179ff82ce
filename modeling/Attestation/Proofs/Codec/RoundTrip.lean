import Mathlib
import Attestation.Proofs.Codec.Same

/-!
Main statements: the bytes of a request are read as the settled request, which is the same as the
first one and has the same bytes; what is read from bytes is written as these bytes and no others;
and requests are the same exactly when they are written alike, as far as they can be written at all.
-/

namespace Attestation

namespace Codec

variable {b b' : Bytes} {r r' : Request} {k : Kind}

lemma requireSource_scheme (k : Kind) (t : Source) : requireSource k.scheme t = .ok () := by
  cases k <;> cases t <;> rfl

lemma decodeBy_scheme (k : Kind) (b : Bytes) : decodeBy k.scheme b =
    if b.length = k.scheme.size then decodeFields k.scheme k.scheme.request b (.blank k)
    else .error (.malformedRequest k.scheme.size b.length) := by
  rw [decodeBy]
  by_cases hb : b.length = k.scheme.size
  · rw [if_neg (not_not.mpr hb), if_pos hb]
    change decodeFields _ _ _ (.blank k) >>= _ = _
    simp only [requireSource_scheme, Except.ok_bind]
    exact bind_pure _
  · rw [if_pos hb, if_neg hb]
    rfl

/-- The id with which the bytes begin. -/
def leadingId (b : Bytes) : UInt16 :=
  UInt16.ofNat (Bytes.toNat (b.take kindWidth))

lemma decode_eq (b : Bytes) : decode b =
    if b.length < kindWidth then .error (.malformedRequest kindWidth b.length)
    else (Kind.ofId? (leadingId b)).elim (.error (.unsupportedKind (leadingId b))) fun k =>
      if b.length = k.scheme.size then decodeFields k.scheme k.scheme.request b (.blank k)
      else .error (.malformedRequest k.scheme.size b.length) := by
  rw [decode]
  split
  · rfl
  · rw [Registry.scheme_standard_eq, ← leadingId]
    cases Kind.ofId? (leadingId b) with
    | none => rfl
    | some k => exact decodeBy_scheme k b

lemma kindWidth_le_size (k : Kind) : kindWidth ≤ k.scheme.size := by
  cases k <;> decide

lemma kind_of_decodeFields (h : decodeFields k.scheme k.scheme.request b (.blank k) = .ok r) :
    r.kind = k :=
  (decodeFields_frame (Request.kind_blank k) h).1

lemma decode_eq_ok_iff : decode b = .ok r ↔ leadingId b = r.kind.id ∧
    b.length = r.kind.scheme.size ∧
      decodeFields r.kind.scheme r.kind.scheme.request b (.blank r.kind) = .ok r := by
  rw [decode_eq]
  constructor
  · intro h
    split at h
    · cases h
    cases hk : Kind.ofId? (leadingId b) with
    | none => simp [hk] at h
    | some k =>
      simp only [hk, Option.elim_some] at h
      split at h
      · next hb =>
        cases kind_of_decodeFields h
        exact ⟨(Kind.ofId?_eq_some_iff.mp hk).symm, hb, h⟩
      · cases h
  · rintro ⟨hi, hb, h⟩
    have hw := kindWidth_le_size r.kind
    rw [if_neg (by omega), hi, Kind.ofId?_id, Option.elim_some, if_pos hb, h]

lemma encode_of_decode (h : decode b = .ok r) : encode r = .ok b := by
  obtain ⟨-, hb, hd⟩ := decode_eq_ok_iff.mp h
  rw [Scheme.size_eq] at hb
  rw [encode_eq]
  exact encodeFields_decodeFields r.kind.layout (Request.kind_blank r.kind) hb hd

-- The kind stands in front, in the two bytes by which the scheme is found.
lemma leadingId_encode (h : encode r = .ok b) : leadingId b = r.kind.id := by
  obtain ⟨fs, hs⟩ : ∃ fs, r.kind.scheme.request = ⟨"attestationType", 2, .attestationType⟩ :: fs :=
    ⟨_, rfl⟩
  rw [encode_eq, hs] at h
  obtain ⟨v, c, t, hv, hc, -, rfl⟩ := (encodeFields_cons_iff rfl).mp h
  cases (show some (FieldValue.kind r.kind) = some v from hv)
  obtain ⟨hl, hn⟩ := toNat_of_writeNumber hc
  rw [leadingId, kindWidth, List.take_left' hl, hn]
  cases r.kind <;> rfl

lemma decode_of_encode (h : encode r = .ok b) :
    ∃ d, decode b = .ok d ∧ r.Settled d ∧ same r d = true := by
  have hi := leadingId_encode h
  rw [encode_eq] at h
  have hb := length_encodeFields rfl h
  obtain ⟨d, hd, hf⟩ :=
    decodeFields_encodeFields r.kind.layout rfl (Request.kind_blank r.kind) h
  have hk := kind_of_decodeFields hd
  refine ⟨d, decode_eq_ok_iff.mpr ?_, Request.settled_of_read? hk hf, ?_⟩
  · rw [hk, Scheme.size_eq]
    exact ⟨hi, hb, hd⟩
  · refine same_iff.mpr ⟨hk.symm, fun f hm => ?_⟩
    obtain ⟨v, w, hv, hw, hs⟩ := hf f hm
    rw [hv, hw, Option.map_some, Option.map_some, hs.settle_eq]

lemma header_of_decode {d : Request} (h : encode r = .ok b) (hd : decode b = .ok d) :
    d.kind = r.kind ∧ d.source = r.source ∧ d.integrityCode = r.integrityCode := by
  obtain ⟨_, hd', hs, -⟩ := decode_of_encode h
  cases hd.symm.trans hd'
  exact hs.header_eq

theorem encode_round_trip (h : encode r = .ok b) : ∃ d, decode b = .ok d ∧
    d.kind = r.kind ∧ d.source = r.source ∧ d.integrityCode = r.integrityCode ∧
    r.Settled d ∧ same r d = true ∧ same d r = true ∧ encode d = .ok b := by
  obtain ⟨d, hd, hv, hs⟩ := decode_of_encode h
  obtain ⟨hk, ht, hc⟩ := hv.header_eq
  exact ⟨d, hd, hk, ht, hc, hv, hs, same_equivalence.symm hs, encode_of_decode hd⟩

theorem encode_round_trip_short :
    ∃ r : Request, ∃ b : Bytes,
      r = ⟨.xrp, 7, .payment ⟨[1, 2], .text " 0x3_0a", .signed 3, .ofNat 255⟩⟩ ∧
      b = [0, 1, 0, 0, 0, 3] ++ List.replicate 31 0 ++ [7] ++ List.replicate 30 0 ++
        [1, 2, 0, 0, 3, 10, 3, 255] ∧
      encode r = .ok b ∧ ∃ d, decode b = .ok d ∧
        d.kind = r.kind ∧ d.source = r.source ∧ d.integrityCode = r.integrityCode ∧
        r.Settled d ∧ same r d = true ∧ same d r = true ∧ encode d = .ok b := by
  refine ⟨_, _, rfl, rfl, ?_⟩
  suffices he : encode _ = .ok _ from ⟨he, encode_round_trip he⟩
  decide +kernel

theorem same_kernel : Equivalence (fun a b : Request => same a b = true) ∧
    (∀ a b : Request, same a b = true → encode a = encode b) ∧
    (∀ (a b : Request) (x : Bytes), encode a = .ok x → encode b = .ok x → same a b = true) ∧
    ∀ a b : Request, (a == b) = true → same a b = true := by
  refine ⟨same_equivalence, fun a b => encode_eq_of_same, fun a b x ha hb => ?_,
    fun a b => same_of_beq⟩
  obtain ⟨d, hd, -, hs⟩ := decode_of_encode ha
  obtain ⟨e, he, -, ht⟩ := decode_of_encode hb
  cases hd.symm.trans he
  exact same_equivalence.trans hs (same_equivalence.symm ht)

theorem decode_canonical (h : decode b = .ok r) : encode r = .ok b ∧
    ∀ b' r', decode b' = .ok r' → encode r' = encode r → b' = b := by
  have he := encode_of_decode h
  refine ⟨he, fun b' r' h' hr => ?_⟩
  rw [encode_of_decode h', he] at hr
  exact Except.ok.inj hr

theorem decode_canonical_height :
    ∃ b : Bytes, ∃ r : Request,
      b = [0, 3, 0, 0, 0, 4] ++ List.replicate 32 255 ++ [0, 0, 1, 0, 255, 255, 255, 255] ∧
      r = ⟨.algo, -1, .blockHeight ⟨.ofNat 256, .ofNat 4294967295⟩⟩ ∧
      decode b = .ok r ∧ encode r = .ok b ∧
        ∀ b' r', decode b' = .ok r' → encode r' = encode r → b' = b :=
  ⟨_, _, rfl, rfl, rfl, decode_canonical rfl⟩

end Codec

end Attestation
