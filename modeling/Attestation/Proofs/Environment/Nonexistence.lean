import Mathlib
import Attestation.Proofs.Chain.Located
import Attestation.Proofs.Chain.Timely
import Attestation.Proofs.Environment.Ending
import Attestation.Proofs.Validation.Nonexistence

/-!
Nonexistence of payments from beginning to end. On a chain whose clock does not run over, the blocks
before the overflow block are those up to the last number or the last time (`lt_overflow_iff`): the
validator's range of blocks is the window with two deadlines that was asked about. So a nonexistence
is proved exactly if nothing was paid in that window (`prove_nonexistence`).
-/

namespace Attestation

namespace Chain

variable {c : Chain} {o p : Page} {first last timestamp : UInt64} {destination reference : Hash}
  {amount : ℕ}

/-- A block before both deadlines: one of the two is enough. -/
def Early (last timestamp : UInt64) (p : Page) : Prop :=
  p.number ≤ last ∨ p.timestamp ≤ timestamp

/-- A payment of an amount with a reference came to a destination in the window. -/
def PaidWithin (c : Chain) (first last timestamp : UInt64) (reference destination : Hash)
    (amount : ℕ) : Prop :=
  ∃ p ∈ c.pages, first ≤ p.number ∧ Early last timestamp p ∧
    ∃ t ∈ p.transactions, t.status = .success ∧ t.reference = some reference ∧
      (amount : ℤ) ≤ t.paid (hashesTo destination)

/-- Sums of payments with a reference to a destination are counted in full. -/
def Countable (c : Chain) (reference destination : Hash) : Prop :=
  ∀ p ∈ c.pages, ∀ t ∈ p.transactions, t.status = .success → t.reference = some reference →
    Entry.total t.inputs (hashesTo destination) < 2 ^ 127 ∧
      Entry.total t.outputs (hashesTo destination) < 2 ^ 127

lemma lt_overflow_iff (h : c.Timely) (ho : c.FirstOverflow last timestamp o) (hp : p ∈ c.pages) :
    p.number < o.number ↔ Early last timestamp p := by
  constructor
  · intro hlt
    by_contra hearly
    rw [Early, not_or, UInt64.not_le, UInt64.not_le] at hearly
    have hle := ho.least p hp hearly.1 hearly.2
    exact UInt64.not_le.mpr hlt hle
  · rintro (hnumber | htime)
    · exact UInt64.lt_of_le_of_lt hnumber ho.behind
    · have hearlier := UInt64.lt_of_le_of_lt htime ho.later
      -- Were it not before the overflow block, it would not be stamped before it.
      by_contra hle
      rcases UInt64.lt_or_eq_of_le (UInt64.not_lt.mp hle) with hlt | heq
      · exact UInt64.lt_asymm (h.timestamp_lt ho.mem hp hlt) hearlier
      · rw [eq_of_number_eq ho.mem hp heq] at hearlier
        exact UInt64.lt_irrefl _ hearlier

lemma exists_firstOverflow_iff : (∃ o, c.FirstOverflow last timestamp o) ↔
    ∃ p ∈ c.pages, last < p.number ∧ timestamp < p.timestamp := by
  constructor
  · rintro ⟨o, ho⟩
    exact ⟨o, ho.mem, ho.behind, ho.later⟩
  · rintro ⟨p, hp, hbehind, hlater⟩
    cases hf : c.firstOverflow? last timestamp with
    | none => exact absurd hlater (firstOverflow?_eq_none_iff.mp hf p hp hbehind)
    | some b =>
      obtain ⟨o, ho, -⟩ := firstOverflow?_eq_some_iff.mp hf
      exact ⟨o, ho⟩

lemma Countable.balanceChange_eq {t : Transaction} (h : c.Countable reference destination)
    (hp : p ∈ c.pages) (ht : t ∈ p.transactions) (hs : t.status = .success)
    (hr : t.reference = some reference) :
    t.balanceChange (hashesTo destination) = t.paid (hashesTo destination) := by
  obtain ⟨hin, hout⟩ := h p hp t ht hs hr
  exact Transaction.balanceChange_eq_paid (Nat.le_pred_of_lt hin) (Nat.le_pred_of_lt hout)

section Paid

variable (h : c.Timely) (hdistinct : c.DistinctHashes) (hcount : c.Countable reference destination)
  (ho : c.FirstOverflow last timestamp o)
include h hdistinct hcount ho

lemma paidWithin_iff : c.PaidWithin first last timestamp reference destination amount ↔
    ∃ t ∈ Validation.transactionsBetween c first o.number,
      t.pays reference destination amount = true := by
  simp only [Validation.mem_transactionsBetween, Transaction.pays_iff]
  constructor
  · rintro ⟨p, hp, hfirst, hearly, t, ht, hs, hr, hle⟩
    have hlt := (lt_overflow_iff h ho hp).mpr hearly
    rw [← hcount.balanceChange_eq hp ht hs hr] at hle
    exact ⟨t, ⟨p, hp, ⟨hfirst, hlt⟩, t, ht, p.number, transaction?_of_distinct hdistinct hp ht⟩, hs,
      hr, hle⟩
  · rintro ⟨t', ⟨p, hp, ⟨hfirst, hlt⟩, t, ht, number, hf⟩, hs, hr, hle⟩
    rw [transaction?_of_distinct hdistinct hp ht] at hf
    cases hf
    rw [hcount.balanceChange_eq hp ht hs hr] at hle
    exact ⟨p, hp, hfirst, (lt_overflow_iff h ho hp).mp hlt, t', ht, hs, hr, hle⟩

lemma not_paidWithin_iff : ¬ c.PaidWithin first last timestamp reference destination amount ↔
    ∀ t ∈ Validation.transactionsBetween c first o.number,
      t.pays reference destination amount = false := by
  simp only [paidWithin_iff h hdistinct hcount ho, not_exists, not_and, Bool.not_eq_true]

end Paid

end Chain

namespace Validation

variable {c : Chain} {o : Page} {reference destination : Hash} {amount : BitVec 128}
  {first last timestamp : UInt64} {e : Response}

lemma exists_block?_of_le {number : UInt64} (ho : o ∈ c.pages) (hle : number ≤ o.number) :
    ∃ b, c.block? number = some b := by
  rw [← Option.isSome_iff_exists, Chain.isSome_block?, UInt64.le_iff_toNat_le, Chain.toNat_height]
  have hlt := Chain.toNat_number_lt ho
  have hle := UInt64.le_iff_toNat_le.mp hle
  omega

section Overflow

variable (ho : c.FirstOverflow last timestamp o)
include ho

lemma expectedResponse_of_unpaid (hc : c.isConfirmed o.number = true) (hordered : first ≤ last)
    (hreferenced : reference ≠ Hash.zero)
    (hunpaid : ∀ t ∈ transactionsBetween c first o.number,
      t.pays reference destination amount.toNat = false) :
    ∃ m, expectedResponse c (.nonexistence c.source destination reference amount.toNat first.toNat
        last.toNat timestamp.toNat) = some (.pending (.nonexistence m)) ∧
      m.lowerBoundaryBlockNumber = first ∧ m.firstOverflowBlockNumber = o.number := by
  have hle := UInt64.le_of_lt (UInt64.lt_of_le_of_lt hordered ho.behind)
  obtain ⟨b, hb⟩ := exists_block?_of_le ho.mem hle
  let m : NonexistenceResponse := {
    deadlineBlockNumber := last
    deadlineTimestamp := timestamp
    destinationAddressHash := destination
    paymentReference := reference
    amount := amount
    lowerBoundaryBlockNumber := first
    lowerBoundaryBlockTimestamp := b.timestamp
    firstOverflowBlockNumber := o.number
    firstOverflowBlockTimestamp := o.timestamp }
  refine ⟨m, (expectedResponse_nonexistence_iff rfl).mpr ⟨rfl, m, ?_, rfl⟩, rfl, rfl⟩
  exact {
    minimal := uint64?_ofNat _ _
    deadlineBlock := uint64?_ofNat _ _
    deadlineTimestamp := uint64?_ofNat _ _
    amount := ⟨_, rfl, Nat.mod_eq_of_lt (amount.isLt.trans (by decide))⟩
    destination := Hash.ofBytes?_toBytes _
    reference := Hash.ofBytes?_toBytes _
    ordered := hordered
    referenced := hreferenced
    lower := ⟨b, hb, rfl⟩
    overflow := ⟨o.block, Chain.firstOverflow?_eq_some_iff.mpr ⟨o, ho, rfl⟩, rfl, rfl⟩
    confirmed := hc
    unpaid := hunpaid }

lemma unpaid_of_expectedResponse (he : expectedResponse c (.nonexistence c.source destination
      reference amount.toNat first.toNat last.toNat timestamp.toNat) = some e) :
    first ≤ last ∧ reference ≠ Hash.zero ∧ ∀ t ∈ transactionsBetween c first o.number,
      t.pays reference destination amount.toNat = false := by
  obtain ⟨-, m, h, -⟩ := (expectedResponse_nonexistence_iff rfl).mp he
  have hfirst := Option.some.inj ((uint64?_ofNat first _).symm.trans h.minimal)
  have hlast := Option.some.inj ((uint64?_ofNat last _).symm.trans h.deadlineBlock)
  have htime := Option.some.inj ((uint64?_ofNat timestamp _).symm.trans h.deadlineTimestamp)
  have hreference := Option.some.inj ((Hash.ofBytes?_toBytes reference).symm.trans h.reference)
  have hdestination :=
    Option.some.inj ((Hash.ofBytes?_toBytes destination).symm.trans h.destination)
  have hamount : m.amount.toNat = amount.toNat := by
    obtain ⟨a, ha, hm⟩ := h.amount
    cases ha
    rw [← hm]
    exact Nat.mod_eq_of_lt (amount.isLt.trans (by decide))
  have hoverflow : m.firstOverflowBlockNumber = o.number := by
    obtain ⟨b, hb, hn, -⟩ := h.overflow
    rw [← hlast, ← htime, Chain.firstOverflow?_eq_some_iff.mpr ⟨o, ho, rfl⟩] at hb
    rw [← hn, ← Option.some.inj hb]
    rfl
  have hordered := h.ordered
  have hreferenced := h.referenced
  have hunpaid := h.unpaid
  rw [← hfirst, ← hlast] at hordered
  rw [← hreference] at hreferenced
  rw [← hfirst, hoverflow, ← hreference, ← hdestination, hamount] at hunpaid
  exact ⟨hordered, hreferenced, hunpaid⟩

end Overflow

end Validation

namespace Claim

variable {c : Chain} {o : Page} {destination : String} {reference : Hash} {amount : BitVec 128}
  {first last timestamp : UInt64} (few : c.pages.length < UInt64.size)
include few

lemma nonexistenceRequest_of_none (h : c.firstOverflow? last timestamp = none) :
    nonexistenceRequest c.ledger destination reference amount first last timestamp =
      .error (.overflowNotFound last timestamp c.height) := by
  rw [nonexistenceRequest, Chain.overflowBlock_eq few, h]
  rfl

lemma nonexistenceRequest_of_overflow (ho : c.FirstOverflow last timestamp o) :
    nonexistenceRequest c.ledger destination reference amount first last timestamp =
      c.ledger.finalBlock o.number >>= fun _ => .ok (.nonexistence c.source
        (addressHash destination) reference amount.toNat first.toNat last.toNat
        timestamp.toNat) := by
  rw [nonexistenceRequest, Chain.overflowBlock_eq few,
    Chain.firstOverflow?_eq_some_iff.mpr ⟨o, ho, rfl⟩]
  rfl

end Claim

namespace Environment

variable {e : Environment}

theorem prove_nonexistence (htimely : e.chain.Timely) (hdistinct : e.chain.DistinctHashes)
    (hopen : e.network.Open) (hu : e.isCancelled e.token = false)
    (room : e.network.current.toNat + 1 < UInt64.size) (destination : String) (reference : Hash)
    (amount : BitVec 128) (first last timestamp : UInt64)
    (hcount : e.chain.Countable reference (addressHash destination)) :
    let claim : Claim := .nonexistence destination reference amount first last timestamp
    ((∀ p ∈ e.chain.pages, last < p.number → ¬ timestamp < p.timestamp) →
      e.prove claim = (some (.error (.overflowNotFound last timestamp e.chain.height)), e)) ∧
    ((∃ p ∈ e.chain.pages, last < p.number ∧ timestamp < p.timestamp) →
      ∃ o, e.chain.FirstOverflow last timestamp o ∧
        (e.chain.isConfirmed o.number = false → e.Unfound claim) ∧
        (e.chain.isConfirmed o.number = true →
          let numbers := [("minimalBlockNumber", 4, first.toNat),
            ("deadlineBlockNumber", 4, last.toNat), ("deadlineTimestamp", 4, timestamp.toNat)]
          let unpaid := first ≤ last ∧ reference ≠ Hash.zero ∧
            ¬ e.chain.PaidWithin first last timestamp reference (addressHash destination)
              amount.toNat
          (∀ error, overlong? numbers = some error →
            e.prove claim = (some (.error (.attestation error)), e)) ∧
          (overlong? numbers = none →
            (unpaid → ∃ p m, (e.prove claim).1 = some (.ok (.proved p)) ∧
              p.response.body = .nonexistence m ∧ m.lowerBoundaryBlockNumber = first ∧
              m.firstOverflowBlockNumber = o.number) ∧
            (¬ unpaid → (e.prove claim).1 = some (.ok (.notProved .fetched)))))) := by
  intro claim
  have few := htimely.stamped.length_lt
  refine ⟨fun hnone => ?_, fun hsome => ?_⟩
  · have hr : claim.request e.chain.ledger e.settings.salt = _ :=
      Claim.nonexistenceRequest_of_none few (Chain.firstOverflow?_eq_none_iff.mpr hnone)
    exact prove_of_ended (newTask_of_error hr)
  · obtain ⟨o, ho⟩ := Chain.exists_firstOverflow_iff.mpr hsome
    have hrequest : claim.request e.chain.ledger e.settings.salt = _ :=
      Claim.nonexistenceRequest_of_overflow few ho
    refine ⟨o, ho, fun hc => ?_, fun hc => ?_⟩
    · rw [Chain.finalBlock_of_unconfirmed hc] at hrequest
      exact unfound_of_error hrequest
    · obtain ⟨b, hb⟩ := Chain.exists_finalBlock hc
      rw [hb, Except.ok_bind] at hrequest
      have hlt (n : UInt64) : n.toNat < 2 ^ 256 := n.toNat_lt.trans (by decide)
      have hexcess := Request.excess?_nonexistence e.chain.source (addressHash destination)
        reference (hlt first) (hlt last) (hlt timestamp) amount.isLt
      refine ⟨fun error herror => ?_, fun hfits => ?_⟩
      · have he := Codec.encode_eq_error_of_plain Request.plain_nonexistence (hexcess.trans herror)
        exact prove_of_refused hrequest he
      · rw [hfits] at hexcess
        rw [Chain.not_paidWithin_iff htimely hdistinct hcount ho]
        refine ⟨fun hunpaid => ?_, fun hpaid => ?_⟩
        · obtain ⟨m, hexpected, hlower, hoverflow⟩ :=
            Validation.expectedResponse_of_unpaid ho hc hunpaid.1 hunpaid.2.1 hunpaid.2.2
          obtain ⟨p, hp, -, hbody⟩ := proved_of_expected hrequest hopen hu room
            Request.plain_nonexistence hexcess rfl hexpected
          exact ⟨p, m, hp, hbody, hlower, hoverflow⟩
        · apply notProved_of_unexpected hrequest hopen hu room Request.plain_nonexistence hexcess
          by_contra hne
          obtain ⟨response, hresponse⟩ := Option.ne_none_iff_exists'.mp hne
          exact hpaid (Validation.unpaid_of_expectedResponse ho hresponse)

section Carol

open Validation Chain

lemma timely_carolsChain : (carolsChain 50).Timely := by
  have h₀ := Timely.start .xrp 0 10
  have h₁ := h₀.mine [] (by decide)
  have h₂ := h₁.mine [toCarol 50] (by decide)
  have h₃ := h₂.mine [] (by decide)
  have h₄ := h₃.mine [] (by decide)
  exact h₄.mine [] (by decide)

lemma eq_toCarol {p : Page} {t : Transaction} (hp : p ∈ (carolsChain 50).pages)
    (ht : t ∈ p.transactions) : t = toCarol 50 := by
  have hall : (carolsChain 50).pages.flatMap (·.transactions) = [toCarol 50] := rfl
  have hm : t ∈ [toCarol 50] := hall ▸ List.mem_flatMap.mpr ⟨p, hp, ht⟩
  exact List.mem_singleton.mp hm

lemma distinctHashes_carolsChain : (carolsChain 50).DistinctHashes := by
  have hall : ((carolsChain 50).pages.flatMap fun p => p.transactions.map (·.hash)) = [7] := rfl
  rw [DistinctHashes, hall]
  exact List.nodup_singleton 7

lemma countable_carolsChain : (carolsChain 50).Countable 7 (addressHash "carol") := by
  intro p hp t ht _ _
  rw [eq_toCarol hp ht, total_inputs_toCarol, total_outputs_toCarol]
  decide

lemma paidWithin_carolsChain {amount : ℕ} : (carolsChain 50).PaidWithin 1 3 1700000030 7
    (addressHash "carol") amount ↔ amount ≤ 50 := by
  constructor
  · rintro ⟨p, hp, -, -, t, ht, -, -, hle⟩
    rw [eq_toCarol hp ht, paid_toCarol] at hle
    exact Int.ofNat_le.mp hle
  · intro hle
    obtain ⟨p, hp, hn, ht⟩ := exists_page_carolsChain 50
    refine ⟨p, hp, hn ▸ by decide, .inl (hn ▸ by decide), toCarol 50, ht, rfl, rfl, ?_⟩
    rw [paid_toCarol]
    exact Int.ofNat_le.mpr hle

/-- Carol got 50 in block 2. That she got 51 is denied, and that she got 50 is not. -/
theorem prove_nonexistence_carol : ∃ (e : Environment) (p : Proof) (m : NonexistenceResponse),
    e.Reachable ∧ e.chain.Timely ∧ e.chain.DistinctHashes ∧
      e.chain.Countable 7 (addressHash "carol") ∧ e.network.Open ∧
      e.isCancelled e.token = false ∧ e.network.current.toNat + 1 < UInt64.size ∧
      (e.prove (.nonexistence "carol" 7 51 1 3 1700000030)).1 = some (.ok (.proved p)) ∧
      p.response.body = .nonexistence m ∧ m.lowerBoundaryBlockNumber = 1 ∧
      m.firstOverflowBlockNumber = 4 ∧
      (e.prove (.nonexistence "carol" 7 50 1 3 1700000030)).1 =
        some (.ok (.notProved .fetched)) ∧
      e.prove (.nonexistence "carol" 7 51 1 5 0) = (some (.error (.overflowNotFound 5 0 5)), e) := by
  let e : Environment := .start (carolsChain 50) .auto standardSalt .standard
  have h : e.Reachable :=
    ⟨carolsChain 50, .auto, standardSalt, .standard, [], timely_carolsChain.reachable, rfl⟩
  have hopen : e.network.Open := ⟨rfl, rfl, rfl⟩
  have room : e.network.current.toNat + 1 < UInt64.size := by decide
  have hprove (amount : BitVec 128) (last timestamp : UInt64) := prove_nonexistence (e := e)
    timely_carolsChain distinctHashes_carolsChain hopen rfl room "carol" 7 amount 1 last timestamp
    countable_carolsChain
  have hnumber {o : Page} (ho : e.chain.FirstOverflow 3 1700000030 o) : o.number = 4 := by
    have hfound := firstOverflow?_eq_some_iff.mpr ⟨o, ho, rfl⟩
    have hfour : (e.chain.firstOverflow? 3 1700000030).map (·.number) = some 4 := rfl
    rw [hfound] at hfour
    exact Option.some.inj hfour
  have hlater : ∃ p ∈ e.chain.pages, 3 < p.number ∧ 1700000030 < p.timestamp :=
    ⟨e.chain.newest, newest_mem _, by decide, by decide⟩
  obtain ⟨o, ho, -, hconfirmed⟩ := (hprove 51 3 1700000030).2 hlater
  have hunpaid : ¬ e.chain.PaidWithin 1 3 1700000030 7 (addressHash "carol") 51 :=
    fun hpaid => absurd (paidWithin_carolsChain.mp hpaid) (by decide)
  obtain ⟨p, m, hp, hm, hlower, hoverflow⟩ :=
    ((hconfirmed (hnumber ho ▸ rfl)).2 rfl).1 ⟨by decide, by decide, hunpaid⟩
  obtain ⟨o', ho', -, hconfirmed'⟩ := (hprove 50 3 1700000030).2 hlater
  have hpaid := paidWithin_carolsChain.mpr (le_refl 50)
  have hrefused := ((hconfirmed' (hnumber ho' ▸ rfl)).2 rfl).2 fun hn => hn.2.2 hpaid
  have hnone : ∀ p ∈ e.chain.pages, 5 < p.number → ¬ 0 < p.timestamp :=
    firstOverflow?_eq_none_iff.mp rfl
  exact ⟨e, p, m, h, timely_carolsChain, distinctHashes_carolsChain, countable_carolsChain, hopen,
    rfl, room, hp, hm, hlower, hoverflow.trans (hnumber ho), hrefused, (hprove 51 5 0).1 hnone⟩

end Carol

end Environment

end Attestation
