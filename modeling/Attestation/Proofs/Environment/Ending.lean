import Mathlib
import Attestation.Proofs.Codec.Plain
import Attestation.Proofs.Environment.Quiet

/-!
How a flow ends where nothing hinders it. It closes the round of its request by itself, so that what
it ends with is what the network says of its bytes on the chain as it is (`prove_open`): a proof, if
the ledger has a response to the request, and else nothing. A request that cannot be written is not
submitted at all (`prove_of_refused`).
-/

namespace Attestation

namespace Network

variable {n : Network} {c : Chain} {salt : String} {data : Bytes} {request read : Request}
  {response : Response}

lemma response?_finalize_eq_none (room : n.current.toNat + 1 < UInt64.size)
    (hd : Codec.decode data = .ok read) (he : expectedResponse c read = none) :
    (n.finalize c).response? n.current data = none := by
  rw [response?, round?_finalize_current room, Option.bind_some]
  by_contra hne
  obtain ⟨found, hr⟩ := Option.ne_none_iff_exists'.mp hne
  obtain ⟨-, read', e, hs⟩ := supported_of_response? hr
  cases hd.symm.trans hs.decoded
  rw [hs.expected] at he
  cases he

end Network

namespace Environment

variable {e : Environment} {t : Task} {claim : Claim} {request : Request} {data : Bytes}
  {id : RequestId} {response : Response} {error : Error}

/-- A claim is not located on the chain as high as it is, and nothing is submitted. -/
def Unfound (e : Environment) (claim : Claim) : Prop :=
  ∃ subject, e.prove claim = (some (.error (.subjectNotFound subject e.chain.height)), e)

lemma unfound_of_error {subject : String} (h : claim.request e.chain.ledger e.settings.salt =
    .error (.subjectNotFound subject e.chain.height)) : e.Unfound claim :=
  ⟨subject, prove_of_ended (newTask_of_error h)⟩

lemma step_closing (hc : t.closing = true) :
    e.step t = ({ t with closing := false }, e.network.finalize e.chain) := by
  rw [step, if_pos hc]

lemma step_obtain (hc : t.closing = false) (hf : t.flow = .fetching request id) :
    e.step t = ({ t with
      flow := .afterObtain request id (.ok (e.network.obtain id.round id.data)) }, e.network) := by
  rw [step, if_neg (by simp [hc]), hf]

lemma step_refused (hc : t.closing = false) (hf : t.flow = .submitting request)
    (he : Codec.encode request = .error error) :
    e.step t = ({ t with flow := .ended (.error (.attestation error)) }, e.network) := by
  have hfile : e.network.file request = .error error := by
    rw [Network.file, he]
    rfl
  rw [step, if_neg (by simp [hc]), hf]
  simp only [hfile]

lemma run_step {k : ℕ} {t' : Task} {n : Network} (h : e.step t = (t', n)) :
    run (k + 1) e t = run k { e with network := n } t' := by
  rw [run_succ, h]

variable (hr : claim.request e.chain.ledger e.settings.salt = .ok request)
include hr

lemma prove_of_refused (he : Codec.encode request = .error error) :
    e.prove claim = (some (.error (.attestation error)), e) := by
  have hrun : run stepsToEnd e (e.newTask claim) =
      (⟨.ended (.error (.attestation error)), false, e.token, none⟩, e.network) := by
    rw [newTask_of_request hr, stepsToEnd, run_succ, step_refused rfl rfl he]
    exact run_ended 3 rfl rfl
  rw [prove_eq_of_result (by rw [hrun]; rfl), hrun]

variable (hopen : e.network.Open) (hu : e.isCancelled e.token = false)
  (room : e.network.current.toNat + 1 < UInt64.size)
include hopen hu room

lemma prove_open (he : Codec.encode request = .ok data) :
    (e.prove claim).1 = some (.ok (Flow.outcome request ⟨e.network.current, data⟩
      ⟨true, ((e.network.put data).finalize e.chain).response? e.network.current data⟩)) := by
  let id : RequestId := ⟨e.network.current, data⟩
  let filed : Environment := { e with network := e.network.put data }
  let closed : Environment := { e with network := (e.network.put data).finalize e.chain }
  let last : Task :=
    { flow := .afterObtain request id (.ok (closed.network.obtain id.round data))
      closing := false
      token := e.token
      deadline := e.deadline }
  have hround := Network.round?_finalize_current (n := e.network.put data) room e.chain
  have hfinal : closed.network.isFinalized id.round = true := congrArg Option.isSome hround
  have hsubmit : e.step ⟨.submitting request, false, e.token, none⟩ =
      ({ last with flow := .waiting request id, closing := true }, filed.network) := by
    have hdata : Codec.encode request = .ok id.data := he
    rw [step_submitting rfl rfl hdata hopen.rejecting rfl, hopen.mode]
    rfl
  have hwait : closed.step { last with flow := .waiting request id } =
      ({ last with flow := .fetching request id }, closed.network) :=
    step_waiting rfl rfl hu hfinal
  have hrun : run stepsToEnd e (e.newTask claim) = (last, closed.network) := calc
    run 4 e (e.newTask claim)
      = run 3 filed { last with flow := .waiting request id, closing := true } := by
        rw [newTask_of_request hr, run_step hsubmit]
    _ = run 2 closed { last with flow := .waiting request id } := run_step (step_closing rfl)
    _ = run 1 closed { last with flow := .fetching request id } := run_step hwait
    _ = (last, closed.network) := run_step (step_obtain rfl rfl)
  have hw : closed.network.withholding = false := ((hopen.put data).finalize e.chain).withholding
  have hobtain : closed.network.obtain id.round data =
      ⟨true, closed.network.response? id.round data⟩ := by
    rw [Network.obtain, if_pos hfinal, hw]
    rfl
  rw [prove_eq_of_result (by rw [hrun]; rfl), hobtain]
  rfl

variable (hplain : request.Plain)
  (hfits : request.fields.findSome? (fun p => p.1.excess? p.2) = none)
include hplain hfits

lemma proved_of_expected (hcode : request.integrityCode = Hash.zero)
    (hexpected : expectedResponse e.chain request = some response) :
    ∃ p, (e.prove claim).1 = some (.ok (.proved p)) ∧ p.request = request ∧
      p.response.body = response.body := by
  obtain ⟨data, he, hd⟩ := Codec.exists_encode_of_plain hplain hfits
  have hs : Network.Supported e.network.salt e.chain data request response :=
    ⟨hd, hexpected, .inl hcode⟩
  obtain ⟨p, hp, hrequest, -, hbody⟩ := prove_of_quiet ⟨hopen, hu, .refl e.chain⟩ hr he hs room
  exact ⟨p, hp, hrequest, hbody⟩

lemma notProved_of_unexpected (hexpected : expectedResponse e.chain request = none) :
    (e.prove claim).1 = some (.ok (.notProved .fetched)) := by
  obtain ⟨data, he, hd⟩ := Codec.exists_encode_of_plain hplain hfits
  rw [prove_open hr hopen hu room he]
  have hnone := Network.response?_finalize_eq_none (n := e.network.put data) room hd hexpected
  change (((e.network.put data).finalize e.chain).response? e.network.current data) = none at hnone
  rw [hnone]
  rfl

end Environment

end Attestation
