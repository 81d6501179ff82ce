import Mathlib
import Attestation.Proofs.Except
import Attestation.Proofs.Preimage
import Attestation.Verification

/-!
What a leaf of a round says: something was found on a source in a round. The hash of a response is
that of its finding (`responseHash_eq_complete_iff`), and a response is proven when the hash of its
finding is (`verifyAttestation_eq_true_iff`).
-/

namespace Attestation

structure Finding where
  source : Source
  round : UInt64
  body : ResponseBody
  deriving DecidableEq, Repr

namespace Finding

def preimage (f : Finding) : Bytes :=
  Preimage.of f.body f.body.kind f.source f.round none

def leaf (f : Finding) : Hash :=
  keccak f.preimage

/-- The finding of a response to a request. It has none if it is of another kind or names no
round. -/
def of? (request : Request) (response : Response) : Option Finding :=
  if response.kind = request.kind then
    response.round.map fun round => ⟨request.source, round, response.body⟩
  else none

variable {f g : Finding} {request : Request} {response : Response} {h root : Hash}

lemma preimage_inj : f.preimage = g.preimage ↔ f = g := by
  refine ⟨fun h => ?_, congrArg preimage⟩
  obtain ⟨hb, hs, hr, -⟩ := Preimage.of_inj h
  rcases f with ⟨s, r, b⟩
  rcases g with ⟨t, q, c⟩
  cases hb
  cases hs
  cases hr
  rfl

lemma length_preimage_ne (f : Finding) : f.preimage.length ≠ 64 := by
  intro h
  have hl := Preimage.length_of_none f.body f.source f.round
  rw [← preimage, h] at hl
  simp at hl

lemma responseHash_eq_complete_iff : responseHash request response none = .ok (.complete h) ↔
    ∃ f, of? request response = some f ∧ f.leaf = h := by
  rw [responseHash, of?]
  by_cases hk : response.kind = request.kind
  · rw [if_neg (not_not.mpr hk), if_pos hk]
    cases response.round with
    | none => simp
    | some r => simp [leaf, preimage, ← hk, Response.kind]
  · rw [if_pos hk, if_neg hk]
    simp

lemma verifyAttestation_eq_true_iff : verifyAttestation request response root = .ok true ↔
    ∃ f proof, of? request response = some f ∧ response.proof = some proof ∧
      Merkle.verify f.leaf proof root = true := by
  have hc := @responseHash_eq_complete_iff request response
  rw [verifyAttestation]
  cases hr : responseHash request response none with
  | error e =>
    cases hf : of? request response with
    | none => simp
    | some f => simp [hr, hf] at hc
  | ok x =>
    cases x with
    | incomplete missing =>
      cases hf : of? request response with
      | none => simp [pure, Except.pure]
      | some f => simp [hr, hf] at hc
    | complete leaf =>
      obtain ⟨f, hf, rfl⟩ := hc.mp hr
      cases response.proof with
      | none => simp [pure, Except.pure]
      | some proof => simp [hf, pure, Except.pure]

end Finding

end Attestation
