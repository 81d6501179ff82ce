import Mathlib
import Attestation.Proofs.Codec.RoundTrip
import Attestation.Verification

/-!
The integrity code of a request. It is a hash of the response that is anticipated
(`integrityCode_eq_ok_iff`), and it lies in a field of its own: with another code, a request is read
as it was read before, but for that code (`decode_withIntegrityCode`).
-/

namespace Attestation

/-- What is hashed into the integrity code of an anticipated response. -/
def ResponseBody.pledge (body : ResponseBody) (source : Source) (salt : String) : Bytes :=
  Preimage.of body body.kind source 0 (some salt)

section Hash

variable {request : Request} {anticipated : Response} {salt : String} {code : Hash}

lemma integrityCode_of_kind_ne (h : anticipated.kind ≠ request.kind) :
    integrityCode request anticipated salt =
      .error (.responseMismatch request.kind.id anticipated.kind.id) := by
  rw [integrityCode, responseHash, if_pos (show (anticipated.withRound 0).kind ≠ _ from h)]
  rfl

lemma integrityCode_of_kind_eq (h : anticipated.kind = request.kind) (salt : String) :
    integrityCode request anticipated salt =
      .ok (keccak (anticipated.body.pledge request.source salt)) := by
  rw [integrityCode, responseHash,
    if_neg (show ¬ (anticipated.withRound 0).kind ≠ _ from not_not.mpr h), ← h]
  rfl

lemma integrityCode_eq_ok_iff : integrityCode request anticipated salt = .ok code ↔
    anticipated.kind = request.kind ∧
      keccak (anticipated.body.pledge request.source salt) = code := by
  by_cases h : anticipated.kind = request.kind
  · simp [integrityCode_of_kind_eq h salt, h]
  · simp [integrityCode_of_kind_ne h, h]

end Hash

lemma FieldValue.Settled.unique {width : ℕ} {v x y : FieldValue} (hx : v.Settled width x)
    (hy : v.Settled width y) : x = y := by
  cases hx with
  | number h =>
    cases hy with
    | number h' => rw [Except.ok.inj (h.symm.trans h')]
  | kind k => cases hy; rfl
  | source s => cases hy; rfl
  | bytes b => cases hy; rfl

lemma RequestBody.values_inj {a b : RequestBody} (hk : a.kind = b.kind) (h : a.values = b.values) :
    a = b := by
  rcases a with f | f | f | f <;> rcases b with g | g | g | g <;> cases hk <;> cases f <;>
    cases g <;> simpa [values] using h

namespace Request

variable {r d d' : Request}

lemma write?_integrityCode (r : Request) (code : Hash) :
    r.write? "messageIntegrityCode" (.bytes (Word.toBytes code)) =
      some (r.withIntegrityCode code) := by
  have hb : r.kind.binding? "messageIntegrityCode" = some Binding.messageIntegrityCode := by
    cases r.kind <;> rfl
  have hc : Hash.ofBytes? (Word.toBytes code) = some code := by
    rw [Hash.ofBytes?, if_pos (Word.length_toBytes code), Word.ofBytes_toBytes]
  rw [write?, hb, Option.bind_some]
  simp only [Binding.messageIntegrityCode, hc, Option.map_some]

lemma read?_withIntegrityCode (r : Request) (code : Hash) :
    (r.withIntegrityCode code).read? "messageIntegrityCode" = some (.bytes (Word.toBytes code)) :=
  read?_write? (write?_integrityCode r code)

-- The header is settled apart from the body.
lemma body_eq_of_settled {code : Hash} (h : r.Settled d)
    (h' : (r.withIntegrityCode code).Settled d') : d'.body = d.body := by
  obtain ⟨hk, -, -⟩ := h.header_eq
  obtain ⟨hk', -, -⟩ := h'.header_eq
  refine RequestBody.values_inj (hk'.trans hk.symm) ?_
  have hd := (List.forall₂_cons.mp (List.forall₂_cons.mp (List.forall₂_cons.mp h).2).2).2
  have hd' := (List.forall₂_cons.mp (List.forall₂_cons.mp (List.forall₂_cons.mp h').2).2).2
  exact List.right_unique_forall₂' (fun _ _ _ hx hy => hx.unique hy) hd' hd

end Request

namespace Codec

variable {s : Scheme} {f : RequestField} {r d : Request} {b : Bytes} {code : Hash}

lemma exists_encodeField_bytes {x y c : Bytes} (hl : x.length = y.length)
    (h : encodeField s f (.bytes x) = .ok c) : ∃ c', encodeField s f (.bytes y) = .ok c' := by
  cases hf : f.kind <;> simp only [encodeField, hf, reduceCtorEq] at h ⊢
  obtain ⟨hx, -⟩ := writeBytes_eq_ok_iff.mp h
  exact ⟨_, writeBytes_eq_ok_iff.mpr ⟨hl ▸ hx, rfl⟩⟩

lemma exists_encode_withIntegrityCode (h : encode r = .ok b) (code : Hash) :
    ∃ b', encode (r.withIntegrityCode code) = .ok b' := by
  rw [encode_eq] at h ⊢
  refine (exists_encodeFields_iff rfl).mpr fun f hf => ?_
  obtain ⟨v, c, hv, hc⟩ := (exists_encodeFields_iff rfl).mp ⟨b, h⟩ f hf
  by_cases hkey : f.key = "messageIntegrityCode"
  · have hold := r.read?_withIntegrityCode r.integrityCode
    have hnew := r.read?_withIntegrityCode code
    rw [← hkey] at hold hnew
    cases hv.symm.trans hold
    have hl : (Word.toBytes r.integrityCode).length = (Word.toBytes code).length := by simp
    obtain ⟨c', hc'⟩ := exists_encodeField_bytes hl hc
    exact ⟨_, c', hnew, hc'⟩
  · rw [Request.read?_write?_of_ne (r.write?_integrityCode code) hkey]
    exact ⟨v, c, hv, hc⟩

lemma decode_withIntegrityCode (he : encode r = .ok b) (hd : decode b = .ok d) (code : Hash) :
    ∃ b', encode (r.withIntegrityCode code) = .ok b' ∧
      decode b' = .ok (d.withIntegrityCode code) := by
  obtain ⟨b', he'⟩ := exists_encode_withIntegrityCode he code
  obtain ⟨_, h, hs, -⟩ := decode_of_encode he
  cases hd.symm.trans h
  obtain ⟨d', hd', hs', -⟩ := decode_of_encode he'
  obtain ⟨-, ht, -⟩ := hs.header_eq
  obtain ⟨-, ht', hc'⟩ := hs'.header_eq
  refine ⟨b', he', hd'.trans (congrArg Except.ok ?_)⟩
  rcases d' with ⟨source, code', body⟩
  obtain rfl : source = d.source := ht'.trans ht.symm
  obtain rfl : code' = code := hc'
  obtain rfl : body = d.body := Request.body_eq_of_settled hs hs'
  rfl

end Codec

end Attestation
