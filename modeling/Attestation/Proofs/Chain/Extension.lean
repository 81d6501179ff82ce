import Mathlib
import Attestation.Chain.History

/-!
Chains that grow. Whatever is mined, and however much time is skipped, the blocks of a chain stay
where they are, and what it finds under the hashes that it lists stays as long as none of them is
mined again (`Extends`).
-/

namespace Attestation.Chain

variable {c d : Chain} {b : Block} {hash : Hash} {number deadline : UInt64}
  {ts : List Transaction}

def Lists (c : Chain) (hash : Hash) : Prop :=
  ∃ p ∈ c.pages, ∃ t ∈ p.transactions, t.hash = hash

def Event.transactions : Event → List Transaction
  | .mine transactions => transactions
  | .mineEmpty _ => []
  | .skipTime _ => []

structure Extends (c d : Chain) : Prop where
  source : d.source = c.source
  confirmations : d.confirmations = c.confirmations
  pages : c.pages <+: d.pages
  transaction? : ∀ hash, c.Lists hash → d.transaction? hash = c.transaction? hash

lemma transaction?_eq_none_of_fresh {p : Page} (h : ∀ t ∈ p.transactions, t.hash ≠ hash) :
    p.transaction? hash = none := by
  rw [Page.transaction?, List.find?_eq_none]
  intro t ht
  rw [beq_iff_eq]
  exact h t (List.mem_reverse.mp ht)

lemma pages_mine_of_room (ts : List Transaction) (room : c.pages.length < UInt64.size) :
    (c.mine ts).pages = c.pages ++ [c.next ts] := by
  rw [mine, dif_pos room]

lemma blockTime_mine (c : Chain) (ts : List Transaction) :
    (c.mine ts).blockTime = c.blockTime := by
  rw [mine]
  split <;> rfl

lemma transaction?_mine_of_room (ts : List Transaction) (room : c.pages.length < UInt64.size) :
    (c.mine ts).transaction? hash =
      (((c.next ts).transaction? hash).map (·, (c.next ts).number)).or (c.transaction? hash) := by
  rw [Chain.transaction?, pages_mine_of_room ts room, List.reverse_append, List.reverse_singleton,
    List.singleton_append, List.findSome?_cons]
  cases (c.next ts).transaction? hash <;> rfl

lemma transaction?_mine (h : ∀ t ∈ ts, t.hash ≠ hash) :
    (c.mine ts).transaction? hash = c.transaction? hash := by
  rcases Nat.lt_or_ge c.pages.length UInt64.size with room | full
  · have hp : (c.next ts).transaction? hash = none := transaction?_eq_none_of_fresh h
    rw [transaction?_mine_of_room ts room, hp]
    rfl
  · rw [mine, dif_neg (Nat.not_lt.mpr full)]

lemma pages_mine (c : Chain) (ts : List Transaction) : c.pages <+: (c.mine ts).pages := by
  rw [mine]
  split
  · exact List.prefix_append _ _
  · exact List.prefix_rfl

-- What each block and each skip keeps, a history keeps.
lemma after_induction {P : Chain → Prop} (hmine : ∀ d ts, P d → P (d.mine ts))
    (hskip : ∀ d seconds, P d → P (d.skipTime seconds)) (hc : P c) (events : List Event) :
    P (c.after events) := by
  have hempty : ∀ count d, P d → P (Chain.mineEmpty count d) := by
    intro count
    induction count with
    | zero => exact fun d hd => hd
    | succ count ih => exact fun d hd => ih (d.mine []) (hmine d [] hd)
  induction events generalizing c with
  | nil => exact hc
  | cons event events ih =>
    apply ih
    cases event with
    | mine transactions => exact hmine c transactions hc
    | mineEmpty count => exact hempty count c hc
    | skipTime seconds => exact hskip c seconds hc

lemma pages_after (c : Chain) (events : List Event) : c.pages <+: (c.after events).pages :=
  after_induction (P := (c.pages <+: ·.pages)) (fun d ts h => h.trans (d.pages_mine ts))
    (fun _ _ h => h) List.prefix_rfl events

lemma blockTime_after (c : Chain) (events : List Event) :
    (c.after events).blockTime = c.blockTime :=
  after_induction (P := (·.blockTime = c.blockTime)) (fun d ts h => (d.blockTime_mine ts).trans h)
    (fun _ _ h => h) rfl events

lemma block?_of_prefix (h : c.pages <+: d.pages) (hb : c.block? number = some b) :
    d.block? number = some b := by
  obtain ⟨p, hp, rfl⟩ := Option.map_eq_some_iff.mp hb
  obtain ⟨hi, rfl⟩ := List.getElem?_eq_some_iff.mp hp
  rw [Chain.block?, List.getElem?_eq_getElem (hi.trans_le h.length_le), h.getElem hi]
  rfl

lemma after_append (c : Chain) (events later : List Event) :
    c.after (events ++ later) = (c.after events).after later :=
  List.foldl_append

namespace Extends

lemma refl (c : Chain) : Extends c c :=
  ⟨rfl, rfl, List.prefix_rfl, fun _ _ => rfl⟩

lemma mine (h : Extends c d) (fresh : ∀ t ∈ ts, ¬ c.Lists t.hash) : Extends c (d.mine ts) where
  source := by
    rw [← h.source, Chain.mine]
    split <;> rfl
  confirmations := by
    rw [← h.confirmations, Chain.mine]
    split <;> rfl
  pages := h.pages.trans (d.pages_mine ts)
  transaction? hash hl := by
    rw [← h.transaction? hash hl]
    apply transaction?_mine
    rintro t ht rfl
    exact fresh t ht hl

lemma mineEmpty (h : Extends c d) (count : ℕ) : Extends c (Chain.mineEmpty count d) := by
  induction count generalizing d with
  | zero => exact h
  | succ count ih =>
    apply ih
    apply h.mine
    intro t ht
    cases ht

lemma apply (h : Extends c d) (event : Event) (fresh : ∀ t ∈ event.transactions, ¬ c.Lists t.hash) :
    Extends c (d.apply event) := by
  cases event with
  | mine transactions => exact h.mine fresh
  | mineEmpty count => exact h.mineEmpty count
  | skipTime seconds => exact ⟨h.source, h.confirmations, h.pages, h.transaction?⟩

lemma after (h : Extends c d) (events : List Event)
    (fresh : ∀ event ∈ events, ∀ t ∈ event.transactions, ¬ c.Lists t.hash) :
    Extends c (d.after events) := by
  induction events generalizing d with
  | nil => exact h
  | cons event events ih =>
    obtain ⟨hfirst, hrest⟩ := List.forall_mem_cons.mp fresh
    exact ih (h.apply event hfirst) hrest

variable (h : Extends c d)
include h

lemma height_le : c.height ≤ d.height := by
  have hl := h.pages.length_le
  rw [UInt64.le_iff_toNat_le, toNat_height, toNat_height]
  omega

lemma isConfirmed (hc : c.isConfirmed number = true) : d.isConfirmed number = true := by
  rw [Chain.isConfirmed, decide_eq_true_iff] at hc ⊢
  rw [h.confirmations]
  exact UInt64.le_trans hc h.height_le

lemma block? (hb : c.block? number = some b) : d.block? number = some b :=
  block?_of_prefix h.pages hb

lemma take_pages (hn : number ≤ c.height) :
    d.pages.take number.toNat = c.pages.take number.toNat := by
  rw [UInt64.le_iff_toNat_le, toNat_height] at hn
  obtain ⟨later, hpages⟩ := h.pages
  rw [← hpages, List.take_append_of_le_length (by omega)]

lemma firstOverflow? {timestamp : UInt64} (ho : c.firstOverflow? deadline timestamp = some b) :
    d.firstOverflow? deadline timestamp = some b := by
  obtain ⟨p, hp, rfl⟩ := Option.map_eq_some_iff.mp ho
  rw [Chain.firstOverflow?, (h.pages.drop _).find?_eq_some hp]
  rfl

end Extends

end Attestation.Chain
