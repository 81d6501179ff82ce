import Mathlib
import Attestation.Proofs.Flow.Session
import Attestation.Proofs.Network.RoundBinding

/-!
What a proof says of itself. A flow hands over what it fetched, so a proof is of the kind of its
request and of the round that was waited for exactly if the reply is (`wellFormed_iff_fits`).
Nothing in a flow sees to that: a reply about something else is proved too (`misfit_is_proved`).
-/

namespace Attestation

structure Proof.WellFormed (p : Proof) : Prop where
  kind : p.response.kind = p.request.kind
  round : p.response.round = some p.id.round

/-- What a reply brings is of a kind and of a round. -/
def ProofReply.Fits (reply : ProofReply) (kind : Kind) (round : UInt64) : Prop :=
  ∀ response, reply.result = some response → response.kind = kind ∧ response.round = some round

section Verification

variable {request : Request} {response : Response}

lemma verifyAttestation_of_kind_ne (h : response.kind ≠ request.kind) (root : Hash) :
    verifyAttestation request response root =
      .error (.responseMismatch request.kind.id response.kind.id) := by
  rw [verifyAttestation, responseHash, if_pos h]
  rfl

variable (hk : response.kind = request.kind)
include hk

lemma verifyAttestation_of_no_round (hr : response.round = none) (root : Hash) :
    verifyAttestation request response root = .ok false := by
  rw [verifyAttestation, responseHash, if_neg (not_not.mpr hk), hr]
  rfl

lemma verifyAttestation_of_round {round : UInt64} {proof : List Hash}
    (hr : response.round = some round) (hp : response.proof = some proof) (root : Hash) :
    verifyAttestation request response root =
      .ok (Merkle.verify (Finding.leaf ⟨request.source, round, response.body⟩) proof root) := by
  have hh := Finding.responseHash_eq_complete_iff.mpr ⟨_, Finding.of?_eq_some hk hr, rfl⟩
  rw [verifyAttestation, hh, hp]
  rfl

end Verification

namespace Flow

variable {request : Request} {xs : List Exchange} {p : Proof}

lemma exchanges_of_proved (ht : Trace (submitting request) xs (ended (.ok (.proved p)))) :
    p.request = request ∧ p.response.hasProof = true ∧
      xs = [.submit request (.ok (some p.id)), .wait p.id.round (.answered (.ok ())),
        .obtain p.id.round p.id.data (.ok ⟨true, some p.response⟩)] := by
  cases trace_iff_protocol.mp ht with
  | proved id reply response hfinalized hresult hproof =>
    rcases reply with ⟨finalized, result⟩
    subst hfinalized hresult
    exact ⟨rfl, hproof, rfl⟩

lemma fetched_of_proved (ht : Trace (submitting request) xs (ended (.ok (.proved p)))) :
    .obtain p.id.round p.id.data (.ok ⟨true, some p.response⟩) ∈ xs := by
  obtain ⟨-, -, rfl⟩ := exchanges_of_proved ht
  simp

lemma wellFormed_iff_of_trace (ht : Trace (submitting request) xs (ended (.ok (.proved p)))) :
    p.WellFormed ↔ ∀ round data reply, .obtain round data (.ok reply) ∈ xs →
      reply.Fits request.kind round := by
  constructor
  · intro hw round data reply hx response hr
    obtain ⟨rfl, -, rfl⟩ := exchanges_of_proved ht
    simp only [List.mem_cons, reduceCtorEq, Exchange.obtain.injEq, List.not_mem_nil, or_false,
      false_or, Except.ok.injEq] at hx
    obtain ⟨rfl, -, rfl⟩ := hx
    obtain rfl := Option.some.inj hr
    exact ⟨hw.kind, hw.round⟩
  · intro hfits
    obtain ⟨hk, hr⟩ := hfits _ _ _ (fetched_of_proved ht) _ rfl
    obtain ⟨rfl, -, -⟩ := exchanges_of_proved ht
    exact ⟨hk, hr⟩

theorem wellFormed_iff_fits (request : Request) (p : Proof) :
    (∀ xs, Trace (submitting request) xs (ended (.ok (.proved p))) →
      p.request = request ∧
      (p.WellFormed ↔ ∀ round data reply, .obtain round data (.ok reply) ∈ xs →
        reply.Fits request.kind round) ∧
      ∃ proof, p.response.proof = some proof ∧
        (p.WellFormed → ∀ root, verifyAttestation p.request p.response root =
          .ok (Merkle.verify (Finding.leaf ⟨p.request.source, p.id.round, p.response.body⟩) proof
            root)) ∧
        (p.response.kind ≠ p.request.kind → ∀ root, verifyAttestation p.request p.response root =
          .error (.responseMismatch p.request.kind.id p.response.kind.id)) ∧
        (p.response.kind = p.request.kind → p.response.round = none →
          ∀ root, verifyAttestation p.request p.response root = .ok false)) ∧
    ∀ (provider : Provider) draw replies,
      (provider.prove draw request replies).result = some (.ok (.proved p)) →
      (∃ xs, Trace (submitting request) xs (ended (.ok (.proved p)))) ∧
        ∃ r ∈ replies, provider.proof r = .ok ⟨true, some p.response⟩ := by
  refine ⟨fun xs ht => ?_, fun provider draw replies h => ?_⟩
  · obtain ⟨hrequest, hproof, -⟩ := exchanges_of_proved ht
    obtain ⟨proof, hp⟩ := Option.isSome_iff_exists.mp hproof
    exact ⟨hrequest, wellFormed_iff_of_trace ht, proof, hp,
      fun hw => verifyAttestation_of_round hw.kind hw.round hp, verifyAttestation_of_kind_ne,
      verifyAttestation_of_no_round⟩
  · obtain ⟨xs, ht, hreplies⟩ := Provider.trace_prove h
    exact ⟨⟨xs, ht⟩, hreplies _ _ _ (fetched_of_proved ht)⟩

section Answers

open Network (five heightBytes)

/-- A network that takes any request under one handle, and answers at once with one response. -/
def answering (id : RequestId) (response : Response) : Script :=
  ⟨.ok (some id), some (0, .ok ()), .ok ⟨true, some response⟩⟩

lemma result_answering (id : RequestId) (hp : response.hasProof = true) :
    ((answering id response).run request none none).result =
      some (0, .ok (.proved ⟨id, request, response⟩)) := by
  have ho : outcome request id ⟨true, some response⟩ = .proved ⟨id, request, response⟩ :=
    outcome_of_proof request id rfl rfl hp
  simp [answering, Script.run, Script.follow, Script.waitEnd, Script.earlier, WaitEnd.failure?,
    Except.map, ho]

def accepted : Json :=
  .object [("status", .string "OK"), ("round", .nat 1)]

def final : Json :=
  .object [("round", .nat 1), ("finalized", .bool true)]

/-- The replies of a server that accepts a request for round 1, calls this round final and then
hands over one response. -/
def serving (response : Response) : List HttpReply :=
  [.answer 200 (some accepted.compact), .answer 200 (some final.compact),
    .answer 200 (some (ProofReply.format.write ⟨true, some response⟩))]

lemma readSubmitted?_accepted : Provider.readSubmitted? accepted.compact = some (true, some 1) :=
  Provider.readSubmitted?_submitReply true (some 1)

lemma readRound?_final : Provider.readRound? final.compact = some (1, true) :=
  Provider.readRound?_roundReply 1 true

lemma result_serving {data : Bytes} (he : Codec.encode request = .ok data)
    (hp : response.hasProof = true) (provider : Provider) (draw : UInt32 → Float) :
    (provider.prove draw request (serving response)).result =
      some (.ok (.proved ⟨⟨1, data⟩, request, response⟩)) := by
  have hsubmit : provider.submitted data (.answer 200 (some accepted.compact)) =
      .ok (some ⟨1, data⟩) := by
    rw [Provider.submitted, Provider.value_of_read readSubmitted?_accepted]
    rfl
  have hround : provider.finalized 1 (.answer 200 (some final.compact)) = .ok true := by
    rw [Provider.finalized, Provider.value_of_read readRound?_final]
    rfl
  have h := Provider.result_prove draw [] he hsubmit hround
    (provider.proof_write ⟨true, some response⟩)
  rw [outcome_of_proof request ⟨1, data⟩ rfl rfl hp] at h
  exact h

def five? (round : Option UInt64) : Response :=
  ⟨round, some [], five⟩

lemma verifyAttestation_five (round : UInt64) (root : Hash) :
    verifyAttestation (.blockHeight .btc 5 20) (five? (some round)) root =
      .ok ((Finding.mk .btc round five).leaf == root) := by
  have hk : (five? (some round)).kind = (Request.blockHeight .btc 5 20).kind := rfl
  exact verifyAttestation_of_round hk rfl rfl root

/-- Proved for the height of a block: a payment, a height of no round, and the height that is under
the root of round 1, of round 2. -/
theorem misfit_is_proved :
    let request : Request := .blockHeight .btc 5 20
    let id : RequestId := ⟨1, heightBytes 5⟩
    let payment : Response := ⟨some 1, some [], .payment default⟩
    let proved (r : Response) : Prop := ¬(⟨id, request, r⟩ : Proof).WellFormed ∧
      ((answering id r).run request none none).result =
        some (0, .ok (.proved ⟨id, request, r⟩)) ∧
      ∀ (provider : Provider) draw, (provider.prove draw request (serving r)).result =
        some (.ok (.proved ⟨id, request, r⟩))
    (proved payment ∧ ∀ root, verifyAttestation request payment root =
      .error (.responseMismatch request.kind.id payment.kind.id)) ∧
    (proved (five? none) ∧ ∀ root, verifyAttestation request (five? none) root = .ok false) ∧
    (proved (five? (some 2)) ∧
      verifyAttestation request (five? (some 2)) (Finding.mk .btc 1 five).leaf = .ok false ∧
      verifyAttestation request (five? (some 1)) (Finding.mk .btc 1 five).leaf = .ok true) := by
  intro request id payment proved
  have hproved {r : Response} (hmisfit : ¬(⟨id, request, r⟩ : Proof).WellFormed)
      (hp : r.hasProof = true) : proved r :=
    ⟨hmisfit, result_answering id hp, result_serving Network.encode_five hp⟩
  refine ⟨⟨hproved ?_ rfl, verifyAttestation_of_kind_ne (by decide)⟩,
    ⟨hproved ?_ rfl, verifyAttestation_of_no_round rfl rfl⟩, hproved ?_ rfl, ?_, ?_⟩
  · exact fun h => absurd h.kind (by decide)
  · exact fun h => absurd h.round (by decide)
  · exact fun h => absurd h.round (by decide)
  · obtain ⟨hone, -, htwo⟩ := Network.leaves_heights
    rw [verifyAttestation_five, hone, htwo]
    rfl
  · rw [verifyAttestation_five, beq_self_eq_true]

def fiveProof : Proof :=
  ⟨⟨1, heightBytes 5⟩, .blockHeight .btc 5 20, five? (some 1)⟩

lemma trace_five : Trace (submitting fiveProof.request)
    [.submit fiveProof.request (.ok (some fiveProof.id)), .wait 1 (.answered (.ok ())),
      .obtain 1 (heightBytes 5) (.ok ⟨true, some fiveProof.response⟩)]
    (ended (.ok (.proved fiveProof))) :=
  trace_iff_protocol.mpr (.proved fiveProof.id ⟨true, some fiveProof.response⟩ _ rfl rfl rfl)

theorem wellFormed_iff_fits_height :
    fiveProof.WellFormed ∧
      verifyAttestation fiveProof.request fiveProof.response (Finding.mk .btc 1 five).leaf =
        .ok (Merkle.verify (Finding.mk .btc 1 five).leaf [] (Finding.mk .btc 1 five).leaf) ∧
      ∃ provider draw r, (Provider.prove provider draw fiveProof.request
          (serving fiveProof.response)).result = some (.ok (.proved fiveProof)) ∧
        r ∈ serving fiveProof.response ∧
        provider.proof r = .ok ⟨true, some fiveProof.response⟩ := by
  obtain ⟨htraces, hsessions⟩ := wellFormed_iff_fits fiveProof.request fiveProof
  obtain ⟨-, hiff, proof, hp, hverify, -⟩ := htraces _ trace_five
  have hw : fiveProof.WellFormed := by
    refine hiff.mpr fun round data reply hx response hr => ?_
    simp only [List.mem_cons, reduceCtorEq, Exchange.obtain.injEq, List.not_mem_nil, or_false,
      false_or, Except.ok.injEq] at hx
    obtain ⟨rfl, -, rfl⟩ := hx
    obtain rfl := Option.some.inj hr
    exact ⟨rfl, rfl⟩
  obtain rfl := Option.some.inj hp
  have hserved : (Provider.prove ⟨.standard, .standard⟩ (fun _ => 0) fiveProof.request
      (serving fiveProof.response)).result = some (.ok (.proved fiveProof)) :=
    result_serving Network.encode_five rfl _ _
  obtain ⟨-, r, hr, hread⟩ := hsessions _ _ _ hserved
  exact ⟨hw, hverify hw _, _, _, r, hserved, hr, hread⟩

end Answers

end Flow

end Attestation
