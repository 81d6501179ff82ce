import Mathlib
import Attestation.Proofs.Chain.Extension
import Attestation.Proofs.Validation.Nonexistence

/-!
Responses that stay. A response follows from blocks that are confirmed, and these stay where they
are when the chain grows. Main statement: what a chain once answers to a request it answers for
good, unless it mines a hash again that it lists.
-/

namespace Attestation

variable {c d : Chain} {number first past : UInt64}

lemma Chain.le_height_of_isConfirmed (h : c.isConfirmed number = true) : number ≤ c.height := by
  have hn : number.toNat < UInt64.size := number.toNat_lt
  rw [isConfirmed, decide_eq_true_iff, UInt64.le_iff_toNat_le, toNat_ahead] at h
  rw [UInt64.le_iff_toNat_le]
  omega

namespace Validation

variable {request : Request} {e : Response} (h : c.Extends d)
include h

lemma Confirmed.extends {id : Bytes} {n : Numeral} {t : Transaction} {b : Block}
    (hc : Confirmed c id n t b) : Confirmed d id n t b where
  id := hc.id
  found := by
    obtain ⟨p, hp, -, ht⟩ := Chain.exists_page_of_transaction? hc.found
    rw [h.transaction? t.hash ⟨p, hp, t, ht, rfl⟩]
    exact hc.found
  blockNumber := hc.blockNumber
  confirmed := h.isConfirmed hc.confirmed
  block := h.block? hc.block

-- Payments and balance decreases look at nothing of the chain but their transaction.
lemma bind_confirmed? {α : Type} {id : Bytes} {n : Numeral} {f : Transaction × Block → Option α}
    {a : α} (hc : (confirmed? c id n).bind f = some a) : (confirmed? d id n).bind f = some a := by
  obtain ⟨⟨t, b⟩, hb, ha⟩ := Option.bind_eq_some_iff.mp hc
  have hd := (confirmed?_eq_some_iff.mp hb).extends h
  rw [confirmed?_eq_some_iff.mpr hd]
  exact ha

lemma payment?_extends {r : PaymentRequest} {p : PaymentResponse} (hp : payment? c r = some p) :
    payment? d r = some p :=
  bind_confirmed? h hp

lemma balanceDecreasing?_extends {r : BalanceDecreasingRequest} {p : BalanceDecreasingResponse}
    (hp : balanceDecreasing? c r = some p) : balanceDecreasing? d r = some p :=
  bind_confirmed? h hp

lemma lowest?_extends {timestamp : UInt64} (hn : number ≤ c.height) :
    lowest? d number timestamp = lowest? c number timestamp := by
  rw [lowest?, h.take_pages hn, lowest?]

lemma blockHeight?_extends {r : BlockHeightRequest} {p : BlockHeightResponse}
    (hp : blockHeight? c r = some p) : blockHeight? d r = some p := by
  simp only [blockHeight?, Option.bind_eq_bind, Option.bind_eq_some_iff, Option.guard_eq_some',
    Option.pure_def, Option.some.injEq, exists_const] at hp ⊢
  obtain ⟨number, hnumber, window, hwindow, hconfirmed, block, hblock, hle, lowest, hlowest, rfl⟩ :=
    hp
  have hheight := (c.isSome_block? number).mp (by rw [hblock]; rfl)
  refine ⟨number, hnumber, window, hwindow, h.isConfirmed hconfirmed, block, h.block? hblock, hle,
    lowest, ?_, ?_⟩
  · rw [lowest?_extends h hheight]
    exact hlowest
  · rw [h.confirmations]

lemma transactionsBetween_extends (hp : past ≤ c.height) :
    transactionsBetween d first past = transactionsBetween c first past := by
  rw [transactionsBetween, h.take_pages hp, transactionsBetween]
  refine List.flatMap_congr fun p hmem => List.filterMap_congr fun t ht => ?_
  obtain ⟨hpage, -⟩ := Chain.mem_window.mp hmem
  rw [h.transaction? t.hash ⟨p, hpage, t, ht, rfl⟩]

lemma Absence.extends {q : NonexistenceRequest} {m : NonexistenceResponse} (ha : Absence c q m) :
    Absence d q m :=
  { ha with
    lower := by
      obtain ⟨b, hb, htime⟩ := ha.lower
      exact ⟨b, h.block? hb, htime⟩
    overflow := by
      obtain ⟨b, hb, hnumber⟩ := ha.overflow
      exact ⟨b, h.firstOverflow? hb, hnumber⟩
    confirmed := h.isConfirmed ha.confirmed
    unpaid := by
      rw [transactionsBetween_extends h (Chain.le_height_of_isConfirmed ha.confirmed)]
      exact ha.unpaid }

lemma nonexistence?_extends {q : NonexistenceRequest} {m : NonexistenceResponse}
    (hm : nonexistence? c q = some m) : nonexistence? d q = some m := by
  rw [nonexistence?_eq_some_iff] at hm ⊢
  exact hm.extends h

lemma body?_extends {r : RequestBody} {b : ResponseBody} (hb : body? c r = some b) :
    body? d r = some b := by
  cases r with
  | payment r =>
    obtain ⟨p, hp, rfl⟩ := Option.map_eq_some_iff.mp hb
    exact Option.map_eq_some_iff.mpr ⟨p, payment?_extends h hp, rfl⟩
  | balanceDecreasing r =>
    obtain ⟨p, hp, rfl⟩ := Option.map_eq_some_iff.mp hb
    exact Option.map_eq_some_iff.mpr ⟨p, balanceDecreasing?_extends h hp, rfl⟩
  | blockHeight r =>
    obtain ⟨p, hp, rfl⟩ := Option.map_eq_some_iff.mp hb
    exact Option.map_eq_some_iff.mpr ⟨p, blockHeight?_extends h hp, rfl⟩
  | nonexistence r =>
    obtain ⟨m, hm, rfl⟩ := Option.map_eq_some_iff.mp hb
    exact Option.map_eq_some_iff.mpr ⟨m, nonexistence?_extends h hm, rfl⟩

lemma expectedResponse_extends (he : expectedResponse c request = some e) :
    expectedResponse d request = some e := by
  obtain ⟨hs, he⟩ := Option.ite_none_right_eq_some.mp he
  obtain ⟨b, hb, rfl⟩ := Option.map_eq_some_iff.mp he
  rw [expectedResponse, if_pos (hs.trans h.source.symm), body?_extends h hb]
  rfl

omit h

theorem expectedResponse_after {events : List Chain.Event}
    (he : expectedResponse c request = some e)
    (fresh : ∀ event ∈ events, ∀ t ∈ event.transactions, ¬ c.Lists t.hash) :
    expectedResponse (c.after events) request = some e :=
  expectedResponse_extends ((Chain.Extends.refl c).after events fresh) he

/-- Nothing came to Carol in block 3, and that stays so when she is paid later. -/
theorem expectedResponse_after_carol : ∃ events e,
    expectedResponse (carolsChain 50) (notToCarol 3 50) = some e ∧
      (∀ event ∈ events, ∀ t ∈ event.transactions, ¬ (carolsChain 50).Lists t.hash) ∧
      ((carolsChain 50).after events).transaction? 8 = some ({ toCarol 50 with hash := 8 }, 6) ∧
      expectedResponse ((carolsChain 50).after events) (notToCarol 3 50) = some e := by
  let later : Transaction := { toCarol 50 with hash := 8 }
  have he : expectedResponse (carolsChain 50) (notToCarol 3 50) =
      some (.pending (.nonexistence (nothingToCarol 3 1700000030 50))) := by
    refine expectedResponse_notToCarol (by decide) rfl rfl ?_
    intro t ht
    cases ht
  have hlists : ¬ (carolsChain 50).Lists later.hash := by
    rintro ⟨p, hp, t, ht, hh⟩
    have hall : (carolsChain 50).pages.flatMap (·.transactions) = [toCarol 50] := rfl
    have hm : t ∈ [toCarol 50] := hall ▸ List.mem_flatMap.mpr ⟨p, hp, ht⟩
    obtain rfl := List.mem_singleton.mp hm
    exact absurd hh (by decide)
  have fresh : ∀ event ∈ [Chain.Event.skipTime 100, .mine [later], .mineEmpty 2],
      ∀ t ∈ event.transactions, ¬ (carolsChain 50).Lists t.hash := by
    intro event hevent t ht
    fin_cases hevent
    · cases ht
    · rwa [List.mem_singleton.mp ht]
    · cases ht
  exact ⟨_, _, he, fresh, rfl, expectedResponse_after he fresh⟩

end Validation

end Attestation
