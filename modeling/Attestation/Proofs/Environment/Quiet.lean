import Mathlib
import Attestation.Proofs.Environment.Proved
import Attestation.Proofs.Environment.Step
import Attestation.Proofs.Validation.Stable

/-!
Flows that nothing hinders: rounds close by themselves, no fault is switched on, the flow is not
cancelled, and the ledger mines no hash again. Such a flow has four steps to take (`Due`), and
whatever happens between them, each one brings it nearer to its proof. Main statement: a flow whose
request the ledger supports is proved, in every quiet history that lets it take its steps.
-/

namespace Attestation

namespace Network

variable {n m : Network} {c d : Chain} {salt : String} {data : Bytes} {id : RequestId}
  {read : Request} {e : Response} {body : ResponseBody}

lemma Supported.extends (hs : Supported salt c data read e) (h : c.Extends d) :
    Supported salt d data read e where
  decoded := hs.decoded
  expected := Validation.expectedResponse_extends h hs.expected
  anticipated := hs.anticipated

lemma Later.current_le (h : n.Later m) : n.current.toNat ≤ m.current.toNat := by
  by_contra hlt
  have hn := n.toNat_current
  have hm := m.toNat_current
  -- What is the current round of the later network is closed in the earlier one.
  have hf : n.isFinalized m.current = true := by
    rw [isFinalized_iff, UInt64.le_iff_toNat_le, UInt64.lt_iff_toNat_lt, UInt64.toNat_one]
    omega
  have := h.isFinalized hf
  rw [isFinalized_current] at this
  cases this

/-- Rounds close by themselves, and no fault is switched on. -/
structure Open (n : Network) : Prop where
  mode : n.mode = .auto
  rejecting : n.rejecting = false
  withholding : n.withholding = false

namespace Open

lemma put (h : n.Open) (data : Bytes) : (n.put data).Open :=
  ⟨h.mode, h.rejecting, h.withholding⟩

lemma finalize (h : n.Open) (c : Chain) : (n.finalize c).Open where
  mode := (Change.finalize c).later.mode.trans h.mode
  rejecting := by
    rw [← h.rejecting, Network.finalize]
    split <;> rfl
  withholding := (withholding_finalize n c).trans h.withholding

end Open

/-- A request has its response with a proof. -/
def Answers (n : Network) (id : RequestId) (body : ResponseBody) : Prop :=
  ∃ response, n.response? id.round id.data = some response ∧ response.hasProof = true ∧
    response.body = body

/-- A request has its response, or lies in the current round, which can be closed. -/
def Holds (n : Network) (id : RequestId) (body : ResponseBody) : Prop :=
  n.Answers id body ∨
    id.round = n.current ∧ id.data ∈ n.filed ∧ n.current.toNat + 1 < UInt64.size

lemma Answers.later (ha : n.Answers id body) (h : n.Later m) : m.Answers id body := by
  obtain ⟨response, hr, hp, hb⟩ := ha
  exact ⟨response, h.response? hr, hp, hb⟩

lemma Holds.finalize (hn : n.Holds id e.body) (hs : Supported n.salt c id.data read e) :
    (n.finalize c).Answers id e.body := by
  rcases hn with ha | ⟨hround, hd, room⟩
  · exact ha.later (Change.finalize c).later
  · obtain ⟨proof, hr⟩ := response?_finalize room hd hs
    exact ⟨(e.withRound n.current).withProof proof, hround ▸ hr, rfl, rfl⟩

lemma Holds.put (hn : n.Holds id body) (data : Bytes) : (n.put data).Holds id body := by
  rcases hn with ha | ⟨hround, hd, room⟩
  · exact .inl (ha.later (Change.file data).later)
  · exact .inr ⟨hround, List.mem_append_left _ hd, room⟩

lemma holds_put (body : ResponseBody) (room : n.current.toNat + 1 < UInt64.size) (data : Bytes) :
    (n.put data).Holds ⟨n.current, data⟩ body :=
  .inr ⟨rfl, List.mem_append_right _ List.mem_cons_self, room⟩

end Network

namespace Environment

variable {e : Environment} {t : Task} {n : Network} {event : Event} {events : List Event}
  {c : Chain} {place token k : ℕ} {claim : Claim} {request read : Request} {data : Bytes}
  {response : Response} {body : ResponseBody}

/-- An event switches no fault on, cancels nothing, and mines no hash that a chain lists. -/
def Event.Quiet (c : Chain) : Event → Prop
  | .chain event => ∀ t ∈ event.transactions, ¬ c.Lists t.hash
  | .setRejecting on => on = false
  | .setWithholding on => on = false
  | .cancel => False
  | _ => True

/-- Nothing hinders a flow with a token. -/
structure Quiet (c : Chain) (token : ℕ) (e : Environment) : Prop where
  network : e.network.Open
  uncancelled : e.isCancelled token = false
  chain : c.Extends e.chain

namespace Quiet

lemma step (h : Quiet c token e) (t : Task) :
    Quiet c token { e with network := (e.step t).2 } where
  network := by
    rcases (stepped_step e t).network_cases with hn | ⟨data, hn⟩ | hn
    · exact hn ▸ h.network
    · exact hn ▸ h.network.put data
    · exact hn ▸ h.network.finalize e.chain
  uncancelled := h.uncancelled
  chain := h.chain

lemma newToken (h : Quiet c token e) : Quiet c token e.newToken where
  network := h.network
  uncancelled := by
    have hu := h.uncancelled
    rw [isCancelled, List.getD_eq_getElem?_getD] at hu ⊢
    rw [Environment.newToken, List.getElem?_append]
    split
    · exact hu
    · cases token - e.tokens.length <;> rfl
  chain := h.chain

lemma apply (h : Quiet c token e) (hq : event.Quiet c) : Quiet c token (e.apply event) := by
  have hu := h.uncancelled
  cases event with
  | chain event => exact ⟨h.network, hu, h.chain.apply event hq⟩
  | finalize => exact ⟨h.network.finalize e.chain, hu, h.chain⟩
  | setRejecting on => exact ⟨⟨h.network.mode, hq, h.network.withholding⟩, hu, h.chain⟩
  | setWithholding on => exact ⟨⟨h.network.mode, h.network.rejecting, hq⟩, hu, h.chain⟩
  | cancel => exact absurd hq id
  | newToken => exact h.newToken
  | launch claim => exact ⟨h.network, hu, h.chain⟩
  | step p =>
    cases hp : e.tasks[p]? with
    | none =>
      rw [Environment.apply, stepAt, hp]
      exact h
    | some t =>
      rw [apply_step_eq hp]
      have hs := h.step t
      exact ⟨hs.network, hs.uncancelled, hs.chain⟩
  | pass milliseconds => exact ⟨h.network, hu, h.chain⟩

end Quiet

/-- How many steps a flow still has to take until it is proved. -/
inductive Due (n : Network) (request : Request) (data : Bytes) (body : ResponseBody) :
    ℕ → Task → Prop
  | submitting {t : Task} (hc : t.closing = false) (hf : t.flow = .submitting request) :
    Due n request data body 4 t
  | closing {t : Task} {id : RequestId} (hc : t.closing = true) (hf : t.flow = .waiting request id)
    (hd : id.data = data) (hn : n.Holds id body) : Due n request data body 3 t
  | waiting {t : Task} {id : RequestId} (hc : t.closing = false)
    (hf : t.flow = .waiting request id) (hd : id.data = data) (hn : n.Answers id body) :
    Due n request data body 2 t
  | fetching {t : Task} {id : RequestId} (hc : t.closing = false)
    (hf : t.flow = .fetching request id) (hd : id.data = data) (hn : n.Answers id body) :
    Due n request data body 1 t
  | proved {t : Task} {p : Proof} (hc : t.closing = false) (hf : t.flow = .ended (.ok (.proved p)))
    (hp : p.request = request) (hd : p.id.data = data) (hb : p.response.body = body) :
    Due n request data body 0 t

namespace Due

lemma turn (h : Due e.network request data response.body k t) (ht : Turn e n)
    (hs : Network.Supported e.network.salt e.chain data read response) :
    Due n request data response.body k t := by
  cases h with
  | submitting hc hf => exact .submitting hc hf
  | closing hc hf hd hn =>
    refine .closing hc hf hd ?_
    cases ht with
    | switched rejecting withholding => exact hn
    | filed data => exact hn.put data
    | closed => exact .inl (hn.finalize (hd ▸ hs))
  | waiting hc hf hd hn => exact .waiting hc hf hd (hn.later ht.later)
  | fetching hc hf hd hn => exact .fetching hc hf hd (hn.later ht.later)
  | proved hc hf hp hd hb => exact .proved hc hf hp hd hb

lemma step (h : Due e.network request data response.body k t) (hq : Quiet c t.token e)
    (he : Codec.encode request = .ok data)
    (hs : Network.Supported e.network.salt e.chain data read response)
    (room : k = 4 → e.network.current.toNat + 1 < UInt64.size) :
    Due (e.step t).2 request data response.body (k - 1) (e.step t).1 := by
  cases h with
  | submitting hc hf =>
    have he' : Codec.encode request = .ok (RequestId.mk e.network.current data).data := he
    rw [step_submitting hc hf he' hq.network.rejecting rfl]
    exact .closing (by rw [hq.network.mode]; rfl) rfl rfl (Network.holds_put _ (room rfl) data)
  | closing hc hf hd hn =>
    rw [Environment.step, if_pos hc]
    exact .waiting rfl hf hd (hn.finalize (hd ▸ hs))
  | waiting hc hf hd hn =>
    obtain ⟨found, hr, hp, hb⟩ := hn
    rw [step_waiting hc hf hq.uncancelled (Network.isFinalized_of_response? hr)]
    exact .fetching hc rfl hd ⟨found, hr, hp, hb⟩
  | fetching hc hf hd hn =>
    obtain ⟨found, hr, hp, hb⟩ := hn
    rw [step_fetching hc hf hq.network.withholding hr hp]
    exact .proved hc rfl rfl hd hb
  | proved hc hf hp hd hb =>
    rw [Environment.step, if_neg (by simp [hc]), hf]
    exact .proved hc hf hp hd hb

lemma le (h : Due n request data body k t) : k ≤ stepsToEnd := by
  cases h <;> decide

lemma result? (h : Due n request data body 0 t) : ∃ p, t.result? = some (.ok (.proved p)) ∧
    p.request = request ∧ p.id.data = data ∧ p.response.body = body := by
  cases h with
  | proved hc hf hp hd hb =>
    rw [Task.result?, hf]
    exact ⟨_, rfl, hp, hd, hb⟩

lemma run (h : Due e.network request data response.body k t) (hq : Quiet c t.token e)
    (he : Codec.encode request = .ok data)
    (hs : Network.Supported e.network.salt e.chain data read response)
    (room : k = 4 → e.network.current.toNat + 1 < UInt64.size) :
    Due (run k e t).2 request data response.body 0 (run k e t).1 := by
  induction k generalizing e t with
  | zero => exact h
  | succ k ih =>
    have hstepped := stepped_step e t
    have hle := h.le
    have hq' : Quiet c (e.step t).1.token { e with network := (e.step t).2 } := by
      rw [hstepped.token]
      exact hq.step t
    have hs' : Network.Supported (e.step t).2.salt e.chain data read response := by
      rwa [hstepped.turn.later.salt]
    have hk : k ≠ 4 := by
      rintro rfl
      exact absurd hle (by decide)
    rw [run_succ]
    exact ih (h.step hq he hs room) hq' hs' fun h => absurd h hk

lemma apply (h : Due e.network request data response.body k t) (hq : Quiet c t.token e)
    (he : Codec.encode request = .ok data)
    (hs : Network.Supported e.network.salt e.chain data read response)
    (room : k = 4 → e.network.current.toNat + 1 < UInt64.size)
    (ht : e.tasks[place]? = some t) (event : Event) :
    ∃ t', (e.apply event).tasks[place]? = some t' ∧ t'.token = t.token ∧
      Due (e.apply event).network request data response.body
        (k - if event.steps place then 1 else 0) t' := by
  cases hplace : event.steps place with
  | false => exact ⟨t, task_apply ht hplace, rfl, h.turn (turn_apply e event) hs⟩
  | true =>
    obtain rfl := Event.eq_step hplace
    refine ⟨(e.step t).1, task_apply_step ht, (stepped_step e t).token, ?_⟩
    rw [apply_step_eq ht]
    exact h.step hq he hs room

-- What counts is the room that is left at the end, since rounds are only added.
lemma after (h : Due e.network request data response.body k t) (hq : Quiet c t.token e)
    (he : Codec.encode request = .ok data)
    (hs : Network.Supported e.network.salt c data read response)
    (ht : e.tasks[place]? = some t) (hevents : ∀ event ∈ events, event.Quiet c)
    (room : (e.after events).network.current.toNat + 1 < UInt64.size) :
    ∃ t', (e.after events).tasks[place]? = some t' ∧
      Due (e.after events).network request data response.body
        (k - events.countP (·.steps place)) t' := by
  induction events generalizing e t k with
  | nil => exact ⟨t, ht, h⟩
  | cons event events ih =>
    obtain ⟨hevent, hevents⟩ := List.forall_mem_cons.mp hevents
    have hcurrent := (later_after e (event :: events)).current_le
    obtain ⟨t', ht', htoken, h'⟩ := h.apply hq he (hs.extends hq.chain) (by omega) ht event
    have hq' : Quiet c t'.token (e.apply event) := htoken ▸ hq.apply hevent
    have hs' : Network.Supported (e.apply event).network.salt c data read response := by
      rwa [(turn_apply e event).later.salt]
    have hafter := ih h' hq' hs' ht' hevents room
    rwa [Nat.sub_sub, Nat.add_comm, ← List.countP_cons] at hafter

end Due

lemma due_newTask (n : Network) (data : Bytes) (body : ResponseBody)
    (hr : claim.request e.chain.ledger e.settings.salt = .ok request) :
    Due n request data body stepsToEnd (e.newTask claim) := by
  rw [newTask_of_request hr]
  exact .submitting rfl rfl

section Prove

variable (hq : Quiet e.chain e.token e)
  (hr : claim.request e.chain.ledger e.settings.salt = .ok request)
  (he : Codec.encode request = .ok data)
  (hs : Network.Supported e.network.salt e.chain data read response)
include hq hr he hs

lemma prove_of_quiet (room : e.network.current.toNat + 1 < UInt64.size) :
    ∃ p, (e.prove claim).1 = some (.ok (.proved p)) ∧ p.request = request ∧ p.id.data = data ∧
      p.response.body = response.body := by
  have hnew := due_newTask e.network data response.body hr
  have htoken : (e.newTask claim).token = e.token := rfl
  obtain ⟨p, hresult, hp⟩ := (hnew.run (htoken ▸ hq) he hs fun _ => room).result?
  rw [prove_eq_of_result hresult]
  exact ⟨p, rfl, hp⟩

lemma proved_of_quiet (hevents : ∀ event ∈ events, event.Quiet e.chain)
    (hsteps : stepsToEnd ≤ events.countP (·.steps e.tasks.length))
    (room : ((e.apply (.launch claim)).after events).network.current.toNat + 1 < UInt64.size) :
    ∃ p, ((e.apply (.launch claim)).after events).resultAt? e.tasks.length =
        some (.ok (.proved p)) ∧ p.request = request ∧ p.id.data = data ∧
      p.response.body = response.body := by
  have hnew := due_newTask e.network data response.body hr
  have hlaunched : Quiet e.chain (e.newTask claim).token (e.apply (.launch claim)) :=
    hq.apply (show Event.Quiet e.chain (.launch claim) from trivial)
  obtain ⟨t, ht, hdue⟩ := Due.after (e := e.apply (.launch claim)) hnew hlaunched he hs
    (task_launch e claim) hevents room
  rw [Nat.sub_eq_zero_of_le hsteps] at hdue
  rw [resultAt?, ht]
  exact hdue.result?

end Prove

end Environment

end Attestation
