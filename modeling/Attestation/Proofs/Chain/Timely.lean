import Mathlib
import Attestation.Proofs.Chain.Pages

/-!
Chains whose clock does not run over. Each of their blocks is stamped later than the ones before it
(`Timely.timestamp_lt`), so that there are fewer blocks than numbers (`Stamped.length_lt`). Where no
hash is mined twice, each transaction is found under its hash (`transaction?_of_distinct`).
-/

namespace Attestation.Chain

variable {c : Chain} {p q : Page} {t : Transaction}

/-- A chain on which every block had a time of 64 bits when it was mined. -/
inductive Timely : Chain → Prop
  | start (source : Source) (confirmations blockTime : UInt64) :
    Timely (start source confirmations blockTime)
  | mine {c : Chain} (transactions : List Transaction) (h : Timely c)
    (room : c.newest.timestamp.toNat + c.blockTime.toNat + c.skipped.toNat < UInt64.size) :
    Timely (c.mine transactions)
  | skipTime {c : Chain} (seconds : UInt64) (h : Timely c) : Timely (c.skipTime seconds)

lemma Timely.reachable (h : c.Timely) : c.Reachable := by
  induction h with
  | start source confirmations blockTime => exact ⟨source, confirmations, blockTime, [], rfl⟩
  | mine transactions h room ih =>
    obtain ⟨source, confirmations, blockTime, events, rfl⟩ := ih
    refine ⟨source, confirmations, blockTime, events ++ [.mine transactions], ?_⟩
    rw [after_append]
    rfl
  | skipTime seconds h ih =>
    obtain ⟨source, confirmations, blockTime, events, rfl⟩ := ih
    refine ⟨source, confirmations, blockTime, events ++ [.skipTime seconds], ?_⟩
    rw [after_append]
    rfl

lemma newest_mem (c : Chain) : c.newest ∈ c.pages :=
  List.getLast_mem _

lemma newest_mine_of_room (transactions : List Transaction) (room : c.pages.length < UInt64.size) :
    (c.mine transactions).newest = c.next transactions := by
  simp only [newest, pages_mine_of_room transactions room, List.getLast_append_singleton]

lemma toNat_timestamp_next (c : Chain) (transactions : List Transaction) :
    (c.next transactions).timestamp.toNat =
      (c.newest.timestamp.toNat + c.blockTime.toNat + c.skipped.toNat) % UInt64.size := by
  change (c.newest.timestamp + c.blockTime + c.skipped).toNat = _
  rw [UInt64.toNat_add, UInt64.toNat_add, Nat.mod_add_mod]

/-- Each block is stamped later than the ones before it, and so at least a second later. -/
structure Stamped (c : Chain) : Prop where
  ordered : c.pages.Pairwise (·.timestamp < ·.timestamp)
  counted : firstTimestamp.toNat + c.pages.length ≤ c.newest.timestamp.toNat + 1

namespace Stamped

lemma le_newest (h : c.Stamped) (hp : p ∈ c.pages) : p.timestamp ≤ c.newest.timestamp := by
  have hle : c.pages.Pairwise (·.timestamp ≤ ·.timestamp) :=
    h.ordered.imp fun hlt => UInt64.le_of_lt hlt
  exact hle.rel_getLast_of_rel_getLast_getLast hp (UInt64.le_refl _)

lemma length_lt (h : c.Stamped) : c.pages.length < UInt64.size := by
  have hcounted := h.counted
  have hnewest := c.newest.timestamp.toNat_lt_size
  have hfirst : 2 ≤ firstTimestamp.toNat := by decide
  omega

lemma mine (h : c.Stamped) (transactions : List Transaction)
    (room : c.newest.timestamp.toNat + c.blockTime.toNat + c.skipped.toNat < UInt64.size) :
    (c.mine transactions).Stamped := by
  have hpages := pages_mine_of_room transactions h.length_lt
  have hnewest := newest_mine_of_room transactions h.length_lt
  have hlater : c.newest.timestamp.toNat < (c.next transactions).timestamp.toNat := by
    have hpos : 0 < c.blockTime.toNat := UInt64.lt_iff_toNat_lt.mp c.blockTime_pos
    rw [toNat_timestamp_next, Nat.mod_eq_of_lt room]
    omega
  constructor
  · rw [hpages, List.pairwise_append]
    refine ⟨h.ordered, List.pairwise_singleton _ _, ?_⟩
    intro p hp q hq
    obtain rfl := List.mem_singleton.mp hq
    have hle := UInt64.le_iff_toNat_le.mp (h.le_newest hp)
    rw [UInt64.lt_iff_toNat_lt]
    omega
  · have hcounted := h.counted
    rw [hpages, hnewest, length_pages_next]
    omega

end Stamped

lemma Timely.stamped (h : c.Timely) : c.Stamped := by
  induction h with
  | start source confirmations blockTime => exact ⟨List.pairwise_singleton _ _, Nat.le_refl _⟩
  | mine transactions h room ih => exact ih.mine transactions room
  | skipTime seconds h ih => exact ⟨ih.ordered, ih.counted⟩

lemma Timely.timestamp_lt (h : c.Timely) (hp : p ∈ c.pages) (hq : q ∈ c.pages)
    (hlt : p.number < q.number) : p.timestamp < q.timestamp := by
  obtain ⟨hi, hpi⟩ := List.getElem?_eq_some_iff.mp (getElem?_number hp)
  obtain ⟨hj, hqj⟩ := List.getElem?_eq_some_iff.mp (getElem?_number hq)
  have hordered := List.pairwise_iff_getElem.mp h.stamped.ordered
  have := hordered _ _ hi hj (UInt64.lt_iff_toNat_lt.mp hlt)
  rwa [hpi, hqj] at this

/-- No two of the transactions that were mined have the same hash. -/
def DistinctHashes (c : Chain) : Prop :=
  (c.pages.flatMap fun p => p.transactions.map (·.hash)).Nodup

lemma transaction?_of_distinct (h : c.DistinctHashes) (hp : p ∈ c.pages) (ht : t ∈ p.transactions) :
    c.transaction? t.hash = some (t, p.number) := by
  obtain ⟨hinner, houter⟩ := List.nodup_flatMap.mp h
  obtain ⟨t', n, hf⟩ := exists_transaction? ⟨p, hp, t, ht, rfl⟩
  obtain ⟨q, hq, rfl, ht'⟩ := exists_page_of_transaction? hf
  have hhash := hash_of_transaction? hf
  -- Two pages that share a hash are one.
  have hpage : q = p := by
    by_contra hne
    have : Std.Symm (Function.onFun List.Disjoint fun p : Page => p.transactions.map (·.hash)) :=
      ⟨fun _ _ hd => hd.symm⟩
    have hdisjoint := houter.forall hq hp hne
    exact hdisjoint (List.mem_map.mpr ⟨t', ht', hhash⟩) (List.mem_map.mpr ⟨t, ht, rfl⟩)
  subst hpage
  have hsame : t' = t := List.inj_on_of_nodup_map (hinner q hp) ht' ht hhash
  rw [hf, hsame]

end Attestation.Chain
