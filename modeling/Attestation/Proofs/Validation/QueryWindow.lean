import Mathlib
import Attestation.Proofs.Chain.Pages
import Attestation.Proofs.Validation.Stable

/-!
The window over which the time of a block is averaged. It begins with the newest block that is old
enough (`QueryWindow`), and there is a response exactly if there is such a block. In a window times
and numbers do not decrease, so that no difference of them falls below zero and the average divides
by none.
-/

namespace Attestation.Validation

variable {c : Chain} {p lowest : Page} {b : Block} {number window timestamp : UInt64}
  {r : Request} {q : BlockHeightRequest} {m : BlockHeightResponse}

/-- The newest block below a number that is stamped no later than a time. -/
structure NewestBelow (c : Chain) (number timestamp : UInt64) (p : Page) : Prop where
  mem : p ∈ c.pages
  below : p.number < number
  early : p.timestamp ≤ timestamp
  newest : ∀ q ∈ c.pages, q.number < number → q.timestamp ≤ timestamp → q.number ≤ p.number

lemma mem_reverse_take :
    p ∈ (c.pages.take number.toNat).reverse ↔ p ∈ c.pages ∧ p.number < number := by
  rw [List.mem_reverse, Chain.mem_take_pages, UInt64.lt_iff_toNat_lt]

lemma lowest?_eq_some_iff : lowest? c number timestamp = some b ↔
    ∃ p, NewestBelow c number timestamp p ∧ p.block = b := by
  have asymm (p q : Page) (h : p.number > q.number) : ¬ q.number > p.number :=
    UInt64.lt_asymm h
  have hordered : (c.pages.take number.toNat).reverse.Pairwise (·.number > ·.number) :=
    List.pairwise_reverse.mpr ((Chain.pairwise_number c).take)
  simp only [lowest?, Option.map_eq_some_iff, find?_eq_some_iff_of_pairwise asymm hordered,
    mem_reverse_take, decide_eq_true_iff, gt_iff_lt, UInt64.not_lt, and_imp]
  refine exists_congr fun p => and_congr_left fun _ => ?_
  constructor
  · rintro ⟨⟨hmem, hbelow⟩, hearly, hnewest⟩
    exact ⟨hmem, hbelow, hearly, hnewest⟩
  · intro h
    exact ⟨⟨h.mem, h.below⟩, h.early, h.newest⟩

lemma exists_newestBelow_iff : (∃ p, NewestBelow c number timestamp p) ↔
    ∃ p ∈ c.pages, p.number < number ∧ p.timestamp ≤ timestamp := by
  constructor
  · rintro ⟨p, h⟩
    exact ⟨p, h.mem, h.below, h.early⟩
  · rintro ⟨p, hp, hbelow, hearly⟩
    have hfound : (lowest? c number timestamp).isSome := by
      rw [lowest?, Option.isSome_map, List.find?_isSome]
      exact ⟨p, mem_reverse_take.mpr ⟨hp, hbelow⟩, decide_eq_true hearly⟩
    obtain ⟨b, hb⟩ := Option.isSome_iff_exists.mp hfound
    obtain ⟨l, hl, -⟩ := lowest?_eq_some_iff.mp hb
    exact ⟨l, hl⟩

lemma toNat_averageTime (hle : lowest.timestamp ≤ p.timestamp) (hlt : lowest.number < p.number)
    (fits : 1000 * (p.timestamp.toNat - lowest.timestamp.toNat) < UInt64.size) :
    (averageTime lowest.block p.block).toNat =
      1000 * (p.timestamp.toNat - lowest.timestamp.toNat) /
        (p.number.toNat - lowest.number.toNat) := by
  have helapsed : min ((p.timestamp - lowest.timestamp).toNat * 1000) (UInt64.size - 1) =
      1000 * (p.timestamp.toNat - lowest.timestamp.toNat) := by
    rw [UInt64.toNat_sub_of_le _ _ hle]
    omega
  change (UInt64.ofNat (min ((p.timestamp - lowest.timestamp).toNat * 1000) (UInt64.size - 1)) /
    (p.number - lowest.number)).toNat = _
  rw [helapsed, UInt64.toNat_div, UInt64.toNat_ofNat_of_lt' fits,
    UInt64.toNat_sub_of_le _ _ (UInt64.le_of_lt hlt)]

/-- A confirmed block, and the block with which its query window begins. -/
structure QueryWindow (c : Chain) (number window : UInt64) (p lowest : Page) : Prop where
  mem : p ∈ c.pages
  numbered : p.number = number
  confirmed : c.isConfirmed number = true
  enough : window ≤ p.timestamp
  lowest : NewestBelow c number (p.timestamp - window) lowest

namespace QueryWindow

variable (h : QueryWindow c number window p lowest)
include h

lemma one_le : 1 ≤ number := by
  have hbelow := UInt64.lt_iff_toNat_lt.mp h.lowest.below
  rw [UInt64.le_iff_toNat_le, UInt64.toNat_one]
  omega

lemma timestamp_le : lowest.timestamp ≤ p.timestamp := by
  have hearly := UInt64.le_iff_toNat_le.mp h.lowest.early
  rw [UInt64.toNat_sub_of_le _ _ h.enough] at hearly
  rw [UInt64.le_iff_toNat_le]
  omega

lemma number_lt : lowest.number < p.number :=
  h.numbered ▸ h.lowest.below

end QueryWindow

/-- The response that a query window gives. -/
def heightResponse (c : Chain) (p lowest : Page) : BlockHeightResponse where
  blockNumber := p.number
  blockTimestamp := p.timestamp
  numberOfConfirmations := UInt8.ofNat (min c.confirmations.toNat 255)
  averageBlockProductionTimeMs := averageTime lowest.block p.block
  lowestQueryWindowBlockNumber := lowest.number
  lowestQueryWindowBlockTimestamp := lowest.timestamp

lemma blockHeight?_eq_some_iff (hn : uint64? q.blockNumber "blockNumber" = some number)
    (hw : uint64? q.queryWindow "queryWindow" = some window) : blockHeight? c q = some m ↔
      ∃ p lowest, QueryWindow c number window p lowest ∧ heightResponse c p lowest = m := by
  simp only [blockHeight?, hn, hw, Option.bind_eq_bind, Option.bind_some, Option.bind_eq_some_iff,
    Option.guard_eq_some', Option.pure_def, Option.some.injEq, exists_const, lowest?_eq_some_iff,
    Chain.block?_eq_some_iff]
  constructor
  · rintro ⟨hconfirmed, _, ⟨p, hp, rfl, rfl⟩, henough, _, ⟨lowest, hlowest, rfl⟩, rfl⟩
    exact ⟨p, lowest, ⟨hp, rfl, hconfirmed, henough, hlowest⟩, rfl⟩
  · rintro ⟨p, lowest, h, rfl⟩
    obtain rfl := h.numbered
    exact ⟨h.confirmed, _, ⟨p, h.mem, rfl, rfl⟩, h.enough, _, ⟨lowest, h.lowest, rfl⟩, rfl⟩

lemma expectedResponse_blockHeight_iff {e : Response} (hr : r.body = .blockHeight q)
    (hs : r.source = c.source) (hn : uint64? q.blockNumber "blockNumber" = some number)
    (hw : uint64? q.queryWindow "queryWindow" = some window) : expectedResponse c r = some e ↔
      ∃ p lowest, QueryWindow c number window p lowest ∧
        .pending (.blockHeight (heightResponse c p lowest)) = e := by
  have hx : body? c r.body = (blockHeight? c q).map .blockHeight := by rw [hr, body?]
  rw [expectedResponse_eq_some_iff hx]
  constructor
  · rintro ⟨-, m, hm, rfl⟩
    obtain ⟨p, lowest, h, rfl⟩ := (blockHeight?_eq_some_iff hn hw).mp hm
    exact ⟨p, lowest, h, rfl⟩
  · rintro ⟨p, lowest, h, rfl⟩
    exact ⟨hs, _, (blockHeight?_eq_some_iff hn hw).mpr ⟨p, lowest, h, rfl⟩, rfl⟩

theorem blockHeight_answered (hr : r.body = .blockHeight q) (hs : r.source = c.source)
    (hn : ∃ a, q.blockNumber.value = .ok a ∧ a.toNat = number.toNat)
    (hw : ∃ a, q.queryWindow.value = .ok a ∧ a.toNat = window.toNat) :
    ((expectedResponse c r).isSome ↔ c.isConfirmed number = true ∧ 1 ≤ number ∧
      ∃ p ∈ c.pages, p.number = number ∧ window ≤ p.timestamp ∧
        ∃ l ∈ c.pages, l.number < number ∧ l.timestamp ≤ p.timestamp - window) ∧
    ∀ e, expectedResponse c r = some e → ∃ m p l, e = .pending (.blockHeight m) ∧
      QueryWindow c number window p l ∧
      m.blockNumber = number ∧ m.blockTimestamp = p.timestamp ∧
      m.numberOfConfirmations.toNat = min c.confirmations.toNat 255 ∧
      m.lowestQueryWindowBlockNumber = l.number ∧
      m.lowestQueryWindowBlockTimestamp = l.timestamp ∧
      l.timestamp ≤ p.timestamp ∧ l.number < p.number ∧
      (1000 * (p.timestamp.toNat - l.timestamp.toNat) < UInt64.size →
        m.averageBlockProductionTimeMs.toNat =
          1000 * (p.timestamp.toNat - l.timestamp.toNat) /
            (p.number.toNat - l.number.toNat)) := by
  have hiff (e : Response) := expectedResponse_blockHeight_iff (c := c) (e := e) hr hs
    (uint64?_eq_some_iff.mpr hn) (uint64?_eq_some_iff.mpr hw)
  constructor
  · rw [Option.isSome_iff_exists]
    constructor
    · rintro ⟨e, he⟩
      obtain ⟨p, l, h, -⟩ := (hiff e).mp he
      exact ⟨h.confirmed, h.one_le, p, h.mem, h.numbered, h.enough, l, h.lowest.mem,
        h.lowest.below, h.lowest.early⟩
    · rintro ⟨hconfirmed, -, p, hp, hnumber, henough, hl⟩
      obtain ⟨l, hl⟩ := exists_newestBelow_iff.mpr hl
      exact ⟨_, (hiff _).mpr ⟨p, l, ⟨hp, hnumber, hconfirmed, henough, hl⟩, rfl⟩⟩
  · intro e he
    obtain ⟨p, l, h, rfl⟩ := (hiff e).mp he
    have hconfirmations : (UInt8.ofNat (min c.confirmations.toNat 255)).toNat =
        min c.confirmations.toNat 255 :=
      UInt8.toNat_ofNat_of_lt' (Nat.lt_succ_of_le (Nat.min_le_right _ _))
    exact ⟨heightResponse c p l, p, l, rfl, h, h.numbered, rfl, hconfirmations, rfl, rfl,
      h.timestamp_le, h.number_lt, toNat_averageTime h.timestamp_le h.number_lt⟩

/-- Blocks come every ten seconds. Twenty seconds before block 5 came block 3, and no block of the
chain is old enough for a window of a minute. -/
theorem blockHeight_answered_five : ∃ (c : Chain) (e : Response) (p l : Page), c.Reachable ∧
    expectedResponse c (.blockHeight .btc 5 20) = some e ∧ QueryWindow c 5 20 p l ∧
      p.timestamp = 1700000050 ∧ l.number = 3 ∧ l.timestamp = 1700000030 ∧
      expectedResponse c (.blockHeight .btc 5 60) = none := by
  let c := (Chain.start .btc 2 10).mineEmpty 10
  let m : BlockHeightResponse := ⟨5, 1700000050, 2, 10000, 3, 1700000030⟩
  have he : expectedResponse c (.blockHeight .btc 5 20) = some (.pending (.blockHeight m)) := by
    decide
  have hn : ∃ a, (Numeral.ofNat 5).value = .ok a ∧ a.toNat = (5 : UInt64).toNat := ⟨5, rfl, rfl⟩
  have hw : ∃ a, (Numeral.ofNat 20).value = .ok a ∧ a.toNat = (20 : UInt64).toNat :=
    ⟨20, rfl, rfl⟩
  obtain ⟨-, hresponse⟩ := blockHeight_answered (c := c) (r := .blockHeight .btc 5 20) rfl rfl hn hw
  obtain ⟨_, p, l, hm, hwindow, -, htime, -, hnumber, hold, -⟩ := hresponse _ he
  cases hm
  refine ⟨c, _, p, l, ⟨.btc, 2, 10, [.mineEmpty 10], rfl⟩, he, hwindow, htime.symm, hnumber.symm,
    hold.symm, ?_⟩
  decide

end Attestation.Validation
