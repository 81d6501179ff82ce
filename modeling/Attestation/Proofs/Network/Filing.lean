import Mathlib
import Attestation.Network.Traffic
import Attestation.Proofs.Codec.RoundTrip
import Attestation.Proofs.Network.Rounds

/-!
Many clients at one network. An event moves the network and the handles of the submissions in one of
five ways (`Move`), and each of them keeps the books in order (`Orderly`): a request is filed in its
round as often as it was accepted, and where rounds close by themselves a submission ends behind the
closing of its round.
-/

namespace Attestation

namespace Traffic

variable {t u : Traffic} {event : Event} {request : Request} {data : Bytes} {id : RequestId}

/-- The traffic behind some events, if each of them is possible. -/
def after? (t : Traffic) (events : List Event) : Option Traffic :=
  events.foldlM next? t

/-- Handles of the submissions that were accepted. -/
def accepted (t : Traffic) : List RequestId :=
  t.returned ++ t.closing

/-- The handle of a request that is filed now. -/
def handle (t : Traffic) (data : Bytes) : RequestId :=
  ⟨t.network.current, data⟩

lemma file_of_refused
    (h : (∀ data, Codec.encode request ≠ .ok data) ∨ t.network.rejecting = true) :
    t.file request = t := by
  cases he : Codec.encode request with
  | error e => simp [file, Network.file, he]
  | ok data =>
    have hr := h.resolve_left fun h => h data he
    simp [file, Network.file_of_encode he, hr]

lemma file_of_accepted (he : Codec.encode request = .ok data) (hr : t.network.rejecting = false) :
    t.file request =
      match t.network.mode with
      | .auto => { t with network := t.network.put data, closing := t.closing ++ [t.handle data] }
      | .manual =>
        { t with network := t.network.put data, returned := t.returned ++ [t.handle data] } := by
  rw [file, Network.file_of_encode he, hr]
  rfl

section Handles

variable (returned closing : List RequestId) (id : RequestId)

lemma perm_queued : (returned ++ (closing ++ [id])).Perm (id :: (returned ++ closing)) := by
  rw [← List.append_assoc]
  exact List.perm_append_singleton id _

lemma perm_filed : (returned ++ [id] ++ closing).Perm (id :: (returned ++ closing)) := by
  rw [List.append_assoc]
  exact List.perm_middle

end Handles

lemma accepted_file (he : Codec.encode request = .ok data) (hr : t.network.rejecting = false) :
    (t.file request).accepted.Perm (t.handle data :: t.accepted) := by
  rw [file_of_accepted he hr]
  cases t.network.mode with
  | auto => exact perm_queued t.returned t.closing _
  | manual => exact perm_filed t.returned t.closing _

/-- What an event makes of the network and of the handles. -/
inductive Move (t u : Traffic) : Prop
  /-- A request is filed, and its round is still to be closed. -/
  | queued (data : Bytes) (mode : t.network.mode = .auto) (network : u.network = t.network.put data)
      (closing : u.closing = t.closing ++ [t.handle data]) (returned : u.returned = t.returned)
  | filed (data : Bytes) (mode : t.network.mode = .manual)
      (network : u.network = t.network.put data)
      (closing : u.closing = t.closing) (returned : u.returned = t.returned ++ [t.handle data])
  /-- A submission closes the round that is the current one by now. -/
  | closed (place : ℕ) (id : RequestId) (c : Chain) (queued : t.closing[place]? = some id)
      (network : u.network = t.network.finalize c) (closing : u.closing = t.closing.eraseIdx place)
      (returned : u.returned = t.returned ++ [id])
  | finalized (c : Chain) (network : u.network = t.network.finalize c)
      (closing : u.closing = t.closing) (returned : u.returned = t.returned)
  | switched (rejecting withholding : Bool)
      (network : u.network = { t.network with rejecting, withholding })
      (closing : u.closing = t.closing) (returned : u.returned = t.returned)

lemma Move.idle (network : u.network = t.network) (closing : u.closing = t.closing)
    (returned : u.returned = t.returned) : Move t u :=
  .switched t.network.rejecting t.network.withholding network closing returned

lemma move_file (t : Traffic) (request : Request) : Move t (t.file request) := by
  by_cases hr : t.network.rejecting = true
  · rw [file_of_refused (.inr hr)]
    exact .idle rfl rfl rfl
  cases he : Codec.encode request with
  | error e =>
    rw [file_of_refused (.inl (by simp [he]))]
    exact .idle rfl rfl rfl
  | ok data =>
    rw [file_of_accepted he (Bool.eq_false_iff.mpr hr)]
    cases hm : t.network.mode with
    | auto => exact .queued data hm rfl rfl rfl
    | manual => exact .filed data hm rfl rfl rfl

lemma move_of_next? (h : t.next? event = some u) : Move t u := by
  cases event with
  | file request =>
    obtain rfl := Option.some.inj h
    exact move_file t request
  | close place c =>
    obtain ⟨id, hid, h⟩ := Option.bind_eq_some_iff.mp h
    obtain rfl := Option.some.inj h
    exact .closed place id c hid rfl rfl rfl
  | finalize c =>
    obtain rfl := Option.some.inj h
    exact .finalized c rfl rfl rfl
  | announce round =>
    obtain ⟨-, h⟩ := Option.ite_none_right_eq_some.mp h
    obtain rfl := Option.some.inj h
    exact .idle rfl rfl rfl
  | setRejecting on =>
    obtain rfl := Option.some.inj h
    exact .switched on t.network.withholding rfl rfl rfl
  | setWithholding on =>
    obtain rfl := Option.some.inj h
    exact .switched t.network.rejecting on rfl rfl rfl
  | subscribe round =>
    obtain rfl := Option.some.inj h
    exact .idle rfl rfl rfl
  | look place =>
    obtain ⟨w, -, h⟩ := Option.bind_eq_some_iff.mp h
    obtain ⟨-, -, h⟩ := Option.bind_eq_some_iff.mp h
    obtain rfl := Option.some.inj h
    exact .idle rfl rfl rfl
  | wake place =>
    obtain ⟨w, -, h⟩ := Option.bind_eq_some_iff.mp h
    obtain ⟨-, -, h⟩ := Option.bind_eq_some_iff.mp h
    obtain rfl := Option.some.inj h
    exact .idle rfl rfl rfl

namespace Move

lemma change (h : Move t u) : t.network.Change u.network := by
  cases h with
  | queued data mode network => exact network ▸ .file data
  | filed data mode network => exact network ▸ .file data
  | closed place id c queued network => exact network ▸ .finalize c
  | finalized c network => exact network ▸ .finalize c
  | switched rejecting withholding network => exact network ▸ .switch rejecting withholding

/-- An event files a request that it accepts, or neither files nor accepts one. -/
lemma accepted (h : Move t u) :
    (∃ data, u.network = t.network.put data ∧ u.accepted.Perm (t.handle data :: t.accepted)) ∨
    (∀ round, u.network.filedIn round = t.network.filedIn round) ∧
      u.network.submissions = t.network.submissions ∧ u.accepted.Perm t.accepted := by
  simp only [Traffic.accepted]
  cases h with
  | queued data mode network closing returned =>
    refine .inl ⟨data, network, ?_⟩
    rw [returned, closing]
    exact perm_queued t.returned t.closing _
  | filed data mode network closing returned =>
    refine .inl ⟨data, network, ?_⟩
    rw [returned, closing]
    exact perm_filed t.returned t.closing _
  | closed place id c queued network closing returned =>
    obtain ⟨hi, rfl⟩ := List.getElem?_eq_some_iff.mp queued
    refine .inr ⟨fun round => ?_, ?_, ?_⟩
    · rw [network, Network.filedIn_finalize]
    · rw [network, Network.submissions_finalize]
    · rw [returned, closing, List.append_assoc]
      exact (List.getElem_cons_eraseIdx_perm hi).append_left _
  | finalized c network closing returned =>
    refine .inr ⟨fun round => ?_, ?_, ?_⟩
    · rw [network, Network.filedIn_finalize]
    · rw [network, Network.submissions_finalize]
    · rw [returned, closing]
  | switched rejecting withholding network closing returned =>
    refine .inr ⟨fun round => ?_, ?_, ?_⟩
    · rw [network]; rfl
    · rw [network]
    · rw [returned, closing]

end Move

structure Orderly (t : Traffic) : Prop where
  filed : ∀ id, t.accepted.count id = (t.network.filedIn id.round).count id.data
  submissions : t.network.submissions = t.accepted.length
  sound : t.network.Sound
  /-- The last number is that of a round which never closes. -/
  finalized : t.network.mode = .auto → ∀ id ∈ t.returned, id.round.toNat + 1 < UInt64.size →
    t.network.isFinalized id.round = true

namespace Orderly

lemma start (mode : Mode) (salt : String) : Orderly (start mode salt) where
  filed id := by
    rw [Network.filedIn]
    split
    · rfl
    · rw [Network.round?]
      split <;> rfl
  submissions := rfl
  sound := Network.sound_start mode salt
  finalized _ _ h := by cases h

lemma isFinalized_of_accepted (h : Orderly t) (hid : id ∈ t.accepted) :
    id.round = t.network.current ∨ t.network.isFinalized id.round = true := by
  have hc := List.count_pos_iff.mpr hid
  rw [h.filed] at hc
  by_cases hr : id.round = t.network.current
  · exact .inl hr
  · exact .inr (Network.isFinalized_of_mem_filedIn (List.count_pos_iff.mp hc) hr)

lemma filed_move (h : Orderly t) (hm : Move t u) (id : RequestId) :
    u.accepted.count id = (u.network.filedIn id.round).count id.data := by
  rcases hm.accepted with ⟨data, network, accepted⟩ | ⟨filedIn, -, accepted⟩
  · rw [accepted.count_eq, network, Network.filedIn_put, List.count_cons, h.filed]
    rcases id with ⟨round, data'⟩
    by_cases hr : round = t.network.current
    · rw [if_pos hr, List.count_append]
      simp [handle, hr, List.count_singleton]
    · simp [handle, Ne.symm hr, if_neg hr]
  · rw [accepted.count_eq, filedIn, h.filed]

lemma finalized_move (h : Orderly t) (hm : Move t u) (ha : u.network.mode = .auto)
    (hid : id ∈ u.returned) (room : id.round.toNat + 1 < UInt64.size) :
    u.network.isFinalized id.round = true := by
  have hl := hm.change.later
  rw [hl.mode] at ha
  have old (hid : id ∈ t.returned) : u.network.isFinalized id.round = true :=
    hl.isFinalized (h.finalized ha id hid room)
  cases hm with
  | queued data mode network closing returned => exact old (returned ▸ hid)
  | filed data mode => rw [ha] at mode; cases mode
  | closed place id' c queued network closing returned =>
    rw [returned, List.mem_append, List.mem_singleton] at hid
    rcases hid with hid | rfl
    · exact old hid
    -- The round of the submission is the one that it closes, or another one closed it before.
    · have hacc : id ∈ t.accepted := List.mem_append_right _ (List.mem_of_getElem? queued)
      rcases h.isFinalized_of_accepted hacc with hr | hr
      · rw [hr] at room ⊢
        rw [network, Network.isFinalized, Network.round?_finalize_current room]
        rfl
      · exact hl.isFinalized hr
  | finalized c network closing returned => exact old (returned ▸ hid)
  | switched rejecting withholding network closing returned => exact old (returned ▸ hid)

lemma move (h : Orderly t) (hm : Move t u) : Orderly u where
  filed := h.filed_move hm
  submissions := by
    rcases hm.accepted with ⟨data, network, accepted⟩ | ⟨-, submissions, accepted⟩
    · rw [network, accepted.length_eq, List.length_cons, ← h.submissions]
      rfl
    · rw [submissions, accepted.length_eq, h.submissions]
  sound := hm.change.sound h.sound
  finalized ha _ hid room := h.finalized_move hm ha hid room

lemma of_reachable (h : t.Reachable) : Orderly t := by
  induction h with
  | start mode salt => exact .start mode salt
  | step _ hs ih => exact ih.move (move_of_next? hs)

end Orderly

lemma later_of_after? {events : List Event} (h : t.after? events = some u) :
    t.network.Later u.network := by
  induction events generalizing t with
  | nil =>
    obtain rfl := Option.some.inj h
    exact .refl t.network
  | cons event events ih =>
    rw [after?, List.foldlM_cons] at h
    obtain ⟨v, hv, h⟩ := Option.bind_eq_some_iff.mp h
    exact (move_of_next? hv).change.later.trans (ih h)

lemma filedIn_of_round? {round : UInt64} {closed : ClosedRound}
    (h : t.network.round? round = some closed) : t.network.filedIn round = closed.filed := by
  have hne : round ≠ t.network.current := by
    rintro rfl
    have := Network.isFinalized_current t.network
    simp [Network.isFinalized, h] at this
  rw [Network.filedIn, if_neg hne, h]
  rfl

theorem finalized_and_filed (h : t.Reachable) :
    (∀ round, t.network.isFinalized round = true ↔ 1 ≤ round ∧ round < t.network.current) ∧
    (∀ events u, t.after? events = some u → ∀ round, t.network.isFinalized round = true →
      u.network.isFinalized round = true ∧ u.network.round? round = t.network.round? round) ∧
    (∀ id, t.accepted.count id = (t.network.filedIn id.round).count id.data) ∧
    (∀ round closed, t.network.round? round = some closed →
      ∃ c, closed = Network.closeRound t.network.salt c round (t.network.filedIn round)) ∧
    t.network.submissions = t.accepted.length ∧
    (∀ request, (∀ data, Codec.encode request ≠ .ok data) ∨ t.network.rejecting = true →
      t.next? (.file request) = some t) ∧
    (∀ request data, Codec.encode request = .ok data → t.network.rejecting = false →
      t.network.isFinalized (t.handle data).round = false ∧
        ∃ u, t.next? (.file request) = some u ∧ u.accepted.Perm (t.handle data :: t.accepted)) ∧
    (t.network.mode = .auto → ∀ id ∈ t.returned, id.round.toNat + 1 < UInt64.size →
      t.network.isFinalized id.round = true) := by
  have ho := Orderly.of_reachable h
  refine ⟨fun round => Network.isFinalized_iff, fun events u hu round hr => ?_, ho.filed,
    fun round closed hc => ?_, ho.submissions, fun request hr => ?_, fun request data he hr => ?_,
    ho.finalized⟩
  · have hl := later_of_after? hu
    exact ⟨hl.isFinalized hr, hl.round? round hr⟩
  · rw [filedIn_of_round? hc]
    exact ho.sound round closed hc
  · exact congrArg some (file_of_refused hr)
  · exact ⟨Network.isFinalized_current t.network, _, rfl, accepted_file he hr⟩

/-- Two submissions file into one round. The one that came second closes it, and the other one
closes a round that is empty. -/
theorem finalized_and_filed_overlapping : ∃ (t : Traffic) (a b : RequestId),
    t.Reachable ∧ t.network.mode = .auto ∧ t.returned = [b, a] ∧ a.round = 1 ∧ b.round = 1 ∧
      a.data ≠ b.data ∧ t.network.submissions = 2 ∧
      (t.network.filedIn 1).count a.data = 1 ∧ (t.network.filedIn 1).count b.data = 1 ∧
      t.network.isFinalized 1 = true ∧ t.network.isFinalized 2 = true ∧
      t.network.isFinalized 3 = false := by
  let a : RequestId :=
    ⟨1, [0, 3, 0, 0, 0, 0] ++ List.replicate 32 0 ++ [0, 0, 0, 5, 0, 0, 0, 20]⟩
  let b : RequestId :=
    ⟨1, [0, 3, 0, 0, 0, 0] ++ List.replicate 32 0 ++ [0, 0, 0, 6, 0, 0, 0, 20]⟩
  let c : Chain := .start .btc 2 10
  have ha : Codec.encode (.blockHeight .btc 5 20) = .ok a.data := Codec.encode_of_decode rfl
  have hb : Codec.encode (.blockHeight .btc 6 20) = .ok b.data := Codec.encode_of_decode rfl
  have h₀ := Reachable.start .auto standardSalt
  have h₁ := h₀.step (show next? _ (.file (.blockHeight .btc 5 20)) = some _ from rfl)
  rw [file_of_accepted ha rfl] at h₁
  have h₂ := h₁.step (show next? _ (.file (.blockHeight .btc 6 20)) = some _ from rfl)
  rw [file_of_accepted hb rfl] at h₂
  have h₃ := h₂.step (show next? _ (.close 1 c) = some _ from rfl)
  have h₄ := h₃.step (show next? _ (.setRejecting true) = some _ from rfl)
  have h := h₄.step (show next? _ (.close 0 c) = some _ from rfl)
  obtain ⟨hf, -, hc, -, hs, -, -, hr⟩ := finalized_and_filed h
  refine ⟨_, a, b, h, rfl, rfl, rfl, rfl, by decide, hs, ?_, ?_, ?_, ?_, ?_⟩
  · exact (hc a).symm.trans (show ([b, a] ++ []).count a = 1 by decide)
  · exact (hc b).symm.trans (show ([b, a] ++ []).count b = 1 by decide)
  · exact hr rfl a (List.mem_cons_of_mem b List.mem_cons_self) (by decide)
  · exact (hf 2).mpr (by decide)
  · exact Bool.eq_false_iff.mpr fun h => absurd ((hf 3).mp h).2 (by decide)

end Traffic

end Attestation
