import Mathlib
import Attestation.Clock.History

/-!
Who shows which clock. A handle goes back to the handle that its clock was made with, its founder.
Main statement: behind every history each handle shows one of the clocks, and two handles show the
same one exactly if they have one founder (`placed`).
-/

namespace Attestation.Clocks

variable {cs : Clocks} {n m a : ℕ}

section Update

variable (cs : Clocks) (handle other : ℕ) (f : Clock → Clock)

lemma handles_update : (cs.update handle f).handles = cs.handles := by
  rw [update]
  split <;> rfl

lemma length_clocks_update : (cs.update handle f).clocks.length = cs.clocks.length := by
  rw [update]
  split
  · exact List.length_modify ..
  · rfl

lemma read?_update : (cs.update handle f).read? other =
    if cs.handles[handle]? = cs.handles[other]? then (cs.read? other).map f
    else cs.read? other := by
  rw [read?, read?, handles_update, update]
  cases hh : cs.handles[handle]? with
  | none => cases ho : cs.handles[other]? <;> rfl
  | some i =>
    cases ho : cs.handles[other]? with
    | none => rfl
    | some j => by_cases hij : i = j <;> simp [List.getElem?_modify, hij]

end Update

section Share

lemma clocks_share (cs : Clocks) (handle : ℕ) : (cs.share handle).clocks = cs.clocks := by
  rw [share]
  split <;> rfl

variable (hn : cs.handles.length = n) (handle : Fin n)
include hn

lemma exists_handles_share : ∃ i ∈ cs.handles, cs.handles[(handle : ℕ)]? = some i ∧
    (cs.share handle).handles = cs.handles ++ [i] := by
  have hlt : (handle : ℕ) < cs.handles.length := hn.symm ▸ handle.isLt
  refine ⟨cs.handles[(handle : ℕ)], List.getElem_mem hlt, List.getElem?_eq_getElem hlt, ?_⟩
  rw [share, List.getElem?_eq_getElem hlt]

lemma length_handles_share : (cs.share handle).handles.length = n + 1 := by
  obtain ⟨i, -, -, hshare⟩ := exists_handles_share hn handle
  rw [hshare, List.length_append, hn, List.length_singleton]

lemma lt_length_share (hp : ∀ i ∈ cs.handles, i < cs.clocks.length) :
    ∀ i ∈ (cs.share handle).handles, i < (cs.share handle).clocks.length := by
  obtain ⟨i, hi, -, hshare⟩ := exists_handles_share hn handle
  rw [hshare, clocks_share]
  exact List.forall_mem_append.mpr ⟨hp, List.forall_mem_singleton.mpr (hp i hi)⟩

lemma getElem?_share_of_lt (ha : a < n) : (cs.share handle).handles[a]? = cs.handles[a]? := by
  obtain ⟨i, -, -, hshare⟩ := exists_handles_share hn handle
  rw [hshare, List.getElem?_append_left (hn.symm ▸ ha)]

lemma getElem?_share_last : (cs.share handle).handles[n]? = cs.handles[(handle : ℕ)]? := by
  obtain ⟨i, -, hi, hshare⟩ := exists_handles_share hn handle
  rw [hshare, hi, ← hn, List.getElem?_concat_length]

lemma read?_share_of_lt (ha : a < n) : (cs.share handle).read? a = cs.read? a := by
  rw [read?, read?, getElem?_share_of_lt hn handle ha, clocks_share]

lemma read?_share_last : (cs.share handle).read? n = cs.read? handle := by
  rw [read?, read?, getElem?_share_last hn handle, clocks_share]

end Share

section Fresh

lemma lt_length_fresh (hp : ∀ i ∈ cs.handles, i < cs.clocks.length) :
    ∀ i ∈ cs.fresh.handles, i < cs.fresh.clocks.length := by
  have hroom : cs.fresh.clocks.length = cs.clocks.length + 1 := List.length_append
  rw [hroom]
  exact List.forall_mem_append.mpr ⟨fun i hi => (hp i hi).trans (Nat.lt_succ_self _),
    List.forall_mem_singleton.mpr (Nat.lt_succ_self _)⟩

variable (hn : cs.handles.length = n)
include hn

lemma length_handles_fresh : cs.fresh.handles.length = n + 1 :=
  List.length_append.trans (congrArg (· + 1) hn)

lemma getElem?_fresh_of_lt (ha : a < n) : cs.fresh.handles[a]? = cs.handles[a]? :=
  List.getElem?_append_left (hn.symm ▸ ha)

lemma getElem?_fresh_last : cs.fresh.handles[n]? = some cs.clocks.length :=
  hn ▸ List.getElem?_concat_length

lemma read?_fresh_of_lt (hp : ∀ i ∈ cs.handles, i < cs.clocks.length) (ha : a < n) :
    cs.fresh.read? a = cs.read? a := by
  have hlt : a < cs.handles.length := hn.symm ▸ ha
  rw [read?, read?, getElem?_fresh_of_lt hn ha, List.getElem?_eq_getElem hlt]
  exact List.getElem?_append_left (hp _ (List.getElem_mem hlt))

lemma read?_fresh_last : cs.fresh.read? n = some .start := by
  rw [read?, getElem?_fresh_last hn]
  exact List.getElem?_concat_length

end Fresh

section Founder

lemma Event.le (event : Event n m) : n ≤ m := by
  cases event with
  | advance handle d => exact Nat.le_refl n
  | sleep handle d => exact Nat.le_refl n
  | share handle => exact Nat.le_succ n
  | fresh => exact Nat.le_succ n

namespace History

/-- The handle that a handle was cloned from, at once or through others; itself if it was made on a
clock of its own. -/
def founder {n : ℕ} : History n → ℕ → ℕ
  | .start, a => a
  | .next earlier (.advance _ _), a => earlier.founder a
  | .next earlier (.sleep _ _), a => earlier.founder a
  | .next (n := n) earlier (.share handle), a =>
    if a = n then earlier.founder handle else earlier.founder a
  | .next earlier .fresh, a => earlier.founder a

variable {h : History n}

lemma founder_share_of_ne (handle : Fin n) (ha : a ≠ n) :
    (h.next (.share handle)).founder a = h.founder a :=
  if_neg ha

lemma founder_share_last (handle : Fin n) :
    (h.next (.share handle)).founder n = h.founder handle :=
  if_pos rfl

lemma founder_le (h : History n) (a : ℕ) : h.founder a ≤ a := by
  induction h generalizing a with
  | start => exact Nat.le_refl a
  | @next n m earlier event ih =>
    cases event with
    | advance handle d => exact ih a
    | sleep handle d => exact ih a
    | fresh => exact ih a
    | share handle =>
      by_cases ha : a = n
      · rw [ha, founder_share_last]
        exact (ih handle).trans handle.isLt.le
      · rw [founder_share_of_ne handle ha]
        exact ih a

lemma founder_lt (h : History n) (handle : Fin n) : h.founder handle < n :=
  (h.founder_le handle).trans_lt handle.isLt

lemma founder_of_le (h : History n) (ha : n ≤ a) : h.founder a = a := by
  induction h with
  | start => rfl
  | @next n m earlier event ih =>
    have hn := ih (event.le.trans ha)
    cases event with
    | advance handle d => exact hn
    | sleep handle d => exact hn
    | fresh => exact hn
    | share handle => rwa [founder_share_of_ne handle (Nat.ne_of_gt ha)]

lemma founder_next (event : Event n m) (ha : a < n) : (h.next event).founder a = h.founder a := by
  cases event with
  | advance handle d => rfl
  | sleep handle d => rfl
  | fresh => rfl
  | share handle => exact founder_share_of_ne handle ha.ne

lemma founder_founder (h : History n) (a : ℕ) : h.founder (h.founder a) = h.founder a := by
  induction h generalizing a with
  | start => rfl
  | @next n m earlier event ih =>
    cases event with
    | advance handle d => exact ih a
    | sleep handle d => exact ih a
    | fresh => exact ih a
    | share handle =>
      rcases lt_trichotomy a n with ha | rfl | ha
      · rw [founder_next _ ha, founder_next _ (earlier.founder_lt ⟨a, ha⟩)]
        exact ih a
      · rw [founder_share_last, founder_next _ (earlier.founder_lt handle)]
        exact ih handle
      · have hfounder := founder_of_le (earlier.next (.share handle)) ha
        rw [hfounder, hfounder]

end History

end Founder

/-- Each handle shows one of the clocks, and two show the same one exactly if they go back to one
founder. -/
structure Placed (h : History n) : Prop where
  length_handles : h.clocks.handles.length = n
  lt_length : ∀ i ∈ h.clocks.handles, i < h.clocks.clocks.length
  shared_iff : ∀ a < n, ∀ b < n,
    (h.clocks.handles[a]? = h.clocks.handles[b]? ↔ h.founder a = h.founder b)

namespace Placed

variable {h : History n}

lemma start : Placed .start where
  length_handles := rfl
  lt_length i hi := by
    rw [List.mem_singleton.mp hi]
    decide
  shared_iff a ha b hb := by
    rw [Nat.lt_one_iff.mp ha, Nat.lt_one_iff.mp hb]
    exact iff_of_true rfl rfl

variable (p : Placed h)
include p

lemma update (handle : Fin n) {f : Clock → Clock} {h' : History n}
    (hclocks : h'.clocks = h.clocks.update handle f) (hfounder : h'.founder = h.founder) :
    Placed h' where
  length_handles := by rw [hclocks, handles_update, p.length_handles]
  lt_length := by
    rw [hclocks, handles_update, length_clocks_update]
    exact p.lt_length
  shared_iff := by
    rw [hclocks, handles_update, hfounder]
    exact p.shared_iff

-- Each handle now shows what a handle showed before, and goes back to the founder of that one.
lemma share (handle : Fin n) : Placed (h.next (.share handle)) := by
  have hn := p.length_handles
  have hearlier : ∀ a < n + 1, ∃ a' < n,
      (h.clocks.share handle).handles[a]? = h.clocks.handles[a']? ∧
        (h.next (.share handle)).founder a = h.founder a' := by
    intro a ha
    rcases Nat.lt_succ_iff_lt_or_eq.mp ha with ha | rfl
    · exact ⟨a, ha, getElem?_share_of_lt hn handle ha, History.founder_next _ ha⟩
    · exact ⟨handle, handle.isLt, getElem?_share_last hn handle,
        History.founder_share_last handle⟩
  refine ⟨length_handles_share hn handle, lt_length_share hn handle p.lt_length,
    fun a ha b hb => ?_⟩
  obtain ⟨a', ha', hshown, hfounder⟩ := hearlier a ha
  obtain ⟨b', hb', hshown', hfounder'⟩ := hearlier b hb
  rw [hfounder, hfounder', ← p.shared_iff a' ha' b' hb', ← hshown, ← hshown']
  rfl

-- The new handle is apart from all others, which are as before.
lemma fresh : Placed (h.next .fresh) := by
  have hn := p.length_handles
  have hold : ∀ a < n, h.clocks.fresh.handles[a]? = h.clocks.handles[a]? := fun a ha =>
    getElem?_fresh_of_lt hn ha
  have hapart : ∀ a < n, h.clocks.fresh.handles[a]? ≠ h.clocks.fresh.handles[n]? ∧
      h.founder a ≠ h.founder n := by
    intro a ha
    rw [hold a ha, getElem?_fresh_last hn, h.founder_of_le (Nat.le_refl n)]
    exact ⟨fun heq => (p.lt_length _ (List.mem_of_getElem? heq)).ne rfl,
      (h.founder_lt ⟨a, ha⟩).ne⟩
  refine ⟨length_handles_fresh hn, lt_length_fresh p.lt_length, fun a ha b hb => ?_⟩
  change h.clocks.fresh.handles[a]? = h.clocks.fresh.handles[b]? ↔ h.founder a = h.founder b
  rcases Nat.lt_succ_iff_lt_or_eq.mp ha with ha | rfl <;>
    rcases Nat.lt_succ_iff_lt_or_eq.mp hb with hb | rfl
  · rw [hold a ha, hold b hb]
    exact p.shared_iff a ha b hb
  · exact iff_of_false (hapart a ha).1 (hapart a ha).2
  · exact iff_of_false (hapart b hb).1.symm (hapart b hb).2.symm
  · exact iff_of_true rfl rfl

end Placed

lemma History.placed (h : History n) : Placed h := by
  induction h with
  | start => exact .start
  | next earlier event ih =>
    cases event with
    | advance handle d => exact ih.update handle rfl rfl
    | sleep handle d => exact ih.update handle rfl rfl
    | share handle => exact ih.share handle
    | fresh => exact ih.fresh

end Attestation.Clocks
