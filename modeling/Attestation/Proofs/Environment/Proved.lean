import Mathlib
import Attestation.Environment.History
import Attestation.Proofs.Codec.RoundTrip
import Attestation.Proofs.Network.Rounds

/-!
Proof flows between a ledger and a network. Whatever happens in between, what a flow has learned is
backed by the network (`Flow.Backed`): its handle carries the bytes of its request, and the response
of a proof is the one that the network keeps. Main statement: a proof that a flow ends with is
proven under the root of its round, and stays so.
-/

namespace Attestation

lemma Finding.of?_congr {a b : Request} (hk : a.kind = b.kind) (hs : a.source = b.source)
    (response : Response) : of? a response = of? b response := by
  rw [of?, of?, hk, hs]

namespace Network

variable {n m : Network} {round : UInt64} {data : Bytes} {request : Request} {id : RequestId}
  {response : Response} {root : Hash} {p : Proof}

lemma isFinalized_of_root? (h : n.root? round = some root) : n.isFinalized round = true := by
  obtain ⟨closed, hc, -⟩ := Option.bind_eq_some_iff.mp h
  rw [isFinalized, hc]
  rfl

lemma isFinalized_of_response? (h : n.response? round data = some response) :
    n.isFinalized round = true := by
  obtain ⟨closed, hc, -⟩ := Option.bind_eq_some_iff.mp h
  rw [isFinalized, hc]
  rfl

lemma Later.root? (h : Later n m) (hr : n.root? round = some root) : m.root? round = some root := by
  rw [Network.root?, h.round? round (isFinalized_of_root? hr)]
  exact hr

lemma Later.response? (h : Later n m) (hr : n.response? round data = some response) :
    m.response? round data = some response := by
  rw [Network.response?, h.round? round (isFinalized_of_response? hr)]
  exact hr

-- The network validates what the bytes are read as, which is a request of the same kind about the
-- same source.
lemma Sound.proven (hn : n.Sound) (he : Codec.encode request = .ok data)
    (hr : n.response? round data = some response) : response.round = some round ∧
      ∃ root, n.root? round = some root ∧ verifyAttestation request response root = .ok true := by
  obtain ⟨closed, hc, hr⟩ := Option.bind_eq_some_iff.mp hr
  obtain ⟨c, hclosed⟩ := hn round closed hc
  rw [hclosed] at hr
  obtain ⟨read, e, proof, root, hs, rfl, hroot, hv⟩ := proven_of_response? hr
  obtain ⟨hk, ht, -⟩ := Codec.header_of_decode he hs.decoded
  refine ⟨rfl, root, ?_, ?_⟩
  · rw [root?, hc, Option.bind_some, hclosed]
    exact hroot
  · rw [Finding.verifyAttestation_eq_true_iff] at hv ⊢
    rwa [Finding.of?_congr hk.symm ht.symm]

lemma withholding_finalize (n : Network) (c : Chain) :
    (n.finalize c).withholding = n.withholding := by
  rw [finalize]
  split <;> rfl

lemma response?_finalize {c : Chain} {e : Response}
    (room : n.current.toNat + 1 < UInt64.size) (hd : data ∈ n.filed)
    (hs : Supported n.salt c data request e) : ∃ proof,
      (n.finalize c).response? n.current data = some ((e.withRound n.current).withProof proof) := by
  obtain ⟨proof, root, hp, -⟩ := response?_of_supported n.current hd hs
  refine ⟨proof, ?_⟩
  rw [response?, round?_finalize_current room]
  exact hp

lemma proved_of_obtain (h : Flow.outcome request id (n.obtain id.round id.data) = .proved p) :
    p.id = id ∧ p.request = request ∧ n.response? id.round id.data = some p.response := by
  rw [obtain] at h
  split at h
  · cases hr : n.response? id.round id.data with
    | none => simp [Flow.outcome, hr] at h
    | some response =>
      cases hw : n.withholding with
      | false =>
        simp only [Flow.outcome, hr, hw, Bool.false_eq_true, if_false, Bool.true_and] at h
        split at h
        · cases h
          exact ⟨rfl, rfl, rfl⟩
        · cases h
      | true => simp [Flow.outcome, hr, hw, Response.hasProof, Response.withoutProof] at h
  · simp [Flow.outcome, ProofReply.pending] at h

end Network

namespace Flow

variable {n m : Network} {f : Flow} {result : Except Fault Outcome}

lemma eq_ended_of_result? (h : f.result? = some result) : f = ended result := by
  cases f with
  | ended r => rw [Option.some.inj h]
  | submitting request => cases h
  | waiting request id => cases h
  | fetching request id => cases h

/-- What a flow has learned from a network holds there. -/
def Backed (n : Network) : Flow → Prop
  | waiting request id | fetching request id => Codec.encode request = .ok id.data
  | ended (.ok (.proved p)) =>
    Codec.encode p.request = .ok p.id.data ∧ n.response? p.id.round p.id.data = some p.response
  | _ => True

lemma Backed.later (h : n.Later m) (hf : f.Backed n) : f.Backed m := by
  match f with
  | submitting request => trivial
  | waiting request id => exact hf
  | fetching request id => exact hf
  | ended (.ok (.proved p)) => exact ⟨hf.1, h.response? hf.2⟩
  | ended (.ok (.notProved stage)) => trivial
  | ended (.error e) => trivial

end Flow

namespace Environment

variable {e : Environment} {t : Task} {event : Event}

lemma step_backed (e : Environment) (t : Task) : e.network.Change (e.step t).2 ∧
    (t.flow.Backed e.network → (e.step t).1.flow.Backed (e.step t).2) := by
  have keep := Network.Change.refl e.network
  rw [step]
  split
  · have hc : e.network.Change (e.network.finalize e.chain) := .finalize e.chain
    exact ⟨hc, .later hc.later⟩
  cases hf : t.flow with
  | submitting request =>
    simp only
    split
    · exact ⟨keep, fun _ => trivial⟩
    · next id network hid =>
      cases id with
      | none =>
        obtain rfl := Network.eq_of_file_none hid
        exact ⟨keep, fun _ => trivial⟩
      | some id =>
        obtain ⟨-, he, -, rfl⟩ := Network.file_some_iff.mp hid
        exact ⟨.file id.data, fun _ => he⟩
  | waiting request id =>
    simp only
    split
    · next ending _ =>
      refine ⟨keep, fun hb => ?_⟩
      simp only [Flow.afterWait]
      split
      · trivial
      · exact hb
    · exact ⟨keep, fun hb => by rwa [hf]⟩
  | fetching request id =>
    refine ⟨keep, fun hb => ?_⟩
    simp only [Flow.afterObtain, Except.map]
    cases ho : Flow.outcome request id (e.network.obtain id.round id.data) with
    | notProved stage => trivial
    | proved p =>
      obtain ⟨rfl, rfl, hr⟩ := Network.proved_of_obtain ho
      exact ⟨hb, hr⟩
  | ended result => exact ⟨keep, fun hb => by rwa [hf]⟩

lemma newTask_backed (e : Environment) (claim : Claim) (n : Network) :
    (e.newTask claim).flow.Backed n := by
  rw [newTask]
  cases claim.request e.chain.ledger e.settings.salt with
  | ok request => trivial
  | error f => trivial

structure Backed (e : Environment) : Prop where
  network : e.network.Sound
  tasks : ∀ t ∈ e.tasks, t.flow.Backed e.network

lemma change_apply (e : Environment) (event : Event) :
    e.network.Change (e.apply event).network := by
  have keep := Network.Change.refl e.network
  cases event with
  | chain event => exact keep
  | finalize => exact .finalize e.chain
  | setRejecting on => exact .switch on e.network.withholding
  | setWithholding on => exact .switch e.network.rejecting on
  | cancel => exact keep
  | newToken => exact keep
  | launch claim => exact keep
  | step place =>
    rw [apply, stepAt]
    split
    · exact (step_backed e _).1
    · exact keep
  | pass milliseconds => exact keep

lemma tasks_apply (h : e.Backed) (ht : t ∈ (e.apply event).tasks) :
    t.flow.Backed (e.apply event).network := by
  have hl := (change_apply e event).later
  have old (ht : t ∈ e.tasks) : t.flow.Backed (e.apply event).network := (h.tasks t ht).later hl
  cases event with
  | launch claim =>
    rcases List.mem_append.mp ht with ht | ht
    · exact old ht
    · obtain rfl := List.mem_singleton.mp ht
      exact newTask_backed e claim _
  | step place =>
    rw [apply, stepAt] at ht old ⊢
    split at ht
    · next t' ht' =>
      simp only [ht'] at old ⊢
      rcases List.mem_or_eq_of_mem_set ht with ht | rfl
      · exact old ht
      · exact (step_backed e t').2 (h.tasks t' (List.mem_of_getElem? ht'))
    · next hnone =>
      simp only [hnone] at old ⊢
      exact old ht
  | chain event => exact old ht
  | finalize => exact old ht
  | setRejecting on => exact old ht
  | setWithholding on => exact old ht
  | cancel => exact old ht
  | newToken => exact old ht
  | pass milliseconds => exact old ht

lemma Backed.apply (h : e.Backed) (event : Event) : (e.apply event).Backed where
  network := (change_apply e event).sound h.network
  tasks _ ht := tasks_apply h ht

lemma Backed.after (h : e.Backed) (events : List Event) : (e.after events).Backed := by
  induction events generalizing e with
  | nil => exact h
  | cons event events ih => exact ih (h.apply event)

lemma later_after (e : Environment) (events : List Event) :
    e.network.Later (e.after events).network := by
  induction events generalizing e with
  | nil => exact .refl e.network
  | cons event events ih => exact (change_apply e event).later.trans (ih _)

lemma Reachable.backed (h : e.Reachable) : e.Backed := by
  obtain ⟨chain, mode, salt, settings, events, -, rfl⟩ := h
  refine Backed.after ⟨Network.sound_start mode salt, fun t ht => ?_⟩ events
  cases ht

theorem proved_verifies {p : Proof} (h : e.Reachable) (ht : t ∈ e.tasks)
    (hp : t.result? = some (.ok (.proved p))) :
    Codec.encode p.request = .ok p.id.data ∧ p.response.round = some p.id.round ∧
      ∃ root, verifyAttestation p.request p.response root = .ok true ∧
        ∀ events, (e.after events).network.root? p.id.round = some root := by
  have hb := h.backed
  have hbacked := hb.tasks t ht
  rw [Flow.eq_ended_of_result? hp] at hbacked
  obtain ⟨he, hr⟩ := hbacked
  obtain ⟨hround, root, hroot, hv⟩ := hb.network.proven he hr
  exact ⟨he, hround, root, hv, fun events => (later_after e events).root? hroot⟩

section Run

variable {place : ℕ} {t' : Task} {n : Network} {request : Request} {id : RequestId}
  {response : Response}

lemma newTask_of_request {claim : Claim}
    (h : claim.request e.chain.ledger e.settings.salt = .ok request) :
    e.newTask claim = ⟨.submitting request, false, e.token, none⟩ := by
  rw [newTask, h]

lemma apply_step (ht : e.tasks[place]? = some t) (hs : e.step t = (t', n)) :
    e.apply (.step place) = { e with network := n, tasks := e.tasks.set place t' } := by
  rw [apply, stepAt, ht]
  simp only [hs]

lemma step_submitting (hc : t.closing = false) (hf : t.flow = .submitting request)
    (he : Codec.encode request = .ok id.data) (hr : e.network.rejecting = false)
    (hid : id.round = e.network.current) :
    e.step t = ({ t with
      flow := .waiting request id
      closing := e.network.mode == .auto
      deadline := e.deadline }, e.network.put id.data) := by
  have hfile := Network.file_some_iff.mpr ⟨hr, he, hid, rfl⟩
  rw [step, if_neg (by simp [hc]), hf]
  simp only [hfile]
  rfl

lemma step_waiting (hc : t.closing = false) (hf : t.flow = .waiting request id)
    (ht : e.isCancelled t.token = false) (hr : e.network.isFinalized id.round = true) :
    e.step t = ({ t with flow := .fetching request id }, e.network) := by
  have hw : e.waitEnd? t id.round = some (.answered (.ok ())) := by simp [waitEnd?, ht, hr]
  rw [step, if_neg (by simp [hc]), hf]
  simp only [hw]
  rfl

lemma step_fetching (hc : t.closing = false) (hf : t.flow = .fetching request id)
    (hw : e.network.withholding = false)
    (hr : e.network.response? id.round id.data = some response) (hp : response.hasProof = true) :
    e.step t = ({ t with flow := .ended (.ok (.proved ⟨id, request, response⟩)) }, e.network) := by
  have ho : e.network.obtain id.round id.data = ⟨true, some response⟩ := by
    rw [Network.obtain, if_pos (Network.isFinalized_of_response? hr), hr, hw]
    rfl
  rw [step, if_neg (by simp [hc]), hf]
  simp [Flow.afterObtain, Except.map, Flow.outcome, ho, hp]

end Run

/-- The network rejects requests once the flow has filed its own, and another round is closed behind
that of the flow before the flow looks at it again. -/
theorem proved_verifies_height : ∃ (e : Environment) (t : Task) (p : Proof),
    e.Reachable ∧ t ∈ e.tasks ∧ t.result? = some (.ok (.proved p)) ∧
      p.request = .blockHeight .btc 8 20 ∧ p.id.round = 1 ∧ e.network.current = 3 ∧
      Codec.encode p.request = .ok p.id.data ∧ p.response.round = some p.id.round ∧
      ∃ root, verifyAttestation p.request p.response root = .ok true ∧
        ∀ events, (e.after events).network.root? p.id.round = some root := by
  let request : Request := .blockHeight .btc 8 20
  let body : ResponseBody := .blockHeight ⟨8, 1700000080, 2, 10000, 6, 1700000060⟩
  let id : RequestId :=
    ⟨1, [0, 3, 0, 0, 0, 0] ++ List.replicate 32 0 ++ [0, 0, 0, 8, 0, 0, 0, 20]⟩
  have he : Codec.encode request = .ok id.data := Codec.encode_of_decode rfl
  obtain ⟨chain, hchain, hrequest, hs⟩ : ∃ chain : Chain, chain.Reachable ∧
      Claim.request chain.ledger standardSalt (.blockHeight 20) = .ok request ∧
      Network.Supported standardSalt chain id.data request (.pending body) :=
    ⟨(Chain.start .btc 2 10).mineEmpty 10, ⟨.btc, 2, 10, [.mineEmpty 10], rfl⟩, by decide, rfl,
      by decide, .inl rfl⟩
  -- The network behind the filing, behind the closing of the round and behind that of the next one.
  let filed : Network := (Network.start .manual standardSalt).put id.data
  let closed : Network := (filed.setRejecting true).finalize chain
  let last : Network := closed.finalize chain
  have room : (filed.setRejecting true).current.toNat + 1 < UInt64.size := by decide
  have hclosed : closed.current.toNat = 2 := Network.toNat_current_finalize room chain
  have hlast : last.current.toNat = 3 := by
    rw [Network.toNat_current_finalize (by rw [hclosed]; decide), hclosed]
  obtain ⟨proof, hr⟩ := Network.response?_finalize room List.mem_cons_self hs
  have hl : closed.Later last := (Network.Change.finalize chain).later
  have hr := hl.response? hr
  have hw : last.withholding = false := by
    rw [Network.withholding_finalize, Network.withholding_finalize]
    rfl
  let p : Proof := ⟨id, request, ((Response.pending body).withRound 1).withProof proof⟩
  let stage (network : Network) (flow : Flow) : Environment :=
    ⟨chain, network, .standard, 0, [false], [⟨flow, false, 0, none⟩]⟩
  have hlaunch : (Environment.start chain .manual standardSalt .standard).apply
      (.launch (.blockHeight 20)) = stage (.start .manual standardSalt) (.submitting request) := by
    rw [apply, newTask_of_request hrequest]
    rfl
  have hfile : (stage (.start .manual standardSalt) (.submitting request)).apply (.step 0) =
      stage filed (.waiting request id) :=
    apply_step rfl (step_submitting rfl rfl he rfl rfl)
  have hwait : (stage last (.waiting request id)).apply (.step 0) =
      stage last (.fetching request id) :=
    apply_step rfl (step_waiting rfl rfl rfl (Network.isFinalized_of_response? hr))
  have hfetch : (stage last (.fetching request id)).apply (.step 0) =
      stage last (.ended (.ok (.proved p))) :=
    apply_step rfl (step_fetching rfl rfl hw hr rfl)
  have hafter : (Environment.start chain .manual standardSalt .standard).after
      [.launch (.blockHeight 20), .step 0, .setRejecting true, .finalize, .finalize, .step 0,
        .step 0] = stage last (.ended (.ok (.proved p))) := by
    simp only [after, List.foldl_cons, List.foldl_nil, hlaunch, hfile]
    rw [← hfetch, ← hwait]
    rfl
  have hreach : (stage last (.ended (.ok (.proved p)))).Reachable :=
    ⟨chain, .manual, standardSalt, .standard, _, hchain, hafter.symm⟩
  exact ⟨_, _, p, hreach, List.mem_cons_self, rfl, rfl, rfl, UInt64.toNat_inj.mp hlast,
    proved_verifies hreach List.mem_cons_self rfl⟩

end Environment

end Attestation
