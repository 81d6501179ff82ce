import Mathlib
import Attestation.Claim
import Attestation.Hash.Lemmas
import Attestation.Proofs.Chain.Pages

/-!
What the prover locates on a chain is what the validator finds there. Both search for the overflow
block from one number to the next, the prover along the numbers that the blocks carry, the validator
with a counter that stops at its limit (`Search`). Both searches end, and with the same block. A
block is final for the one exactly if it is confirmed for the other.
-/

namespace Attestation.Chain

variable {c : Chain} {b : Block} {p : Page} {t : Transaction} {id : BlockId} {hash : Hash}
  {number last timestamp : UInt64} {found : Option Block} {next : UInt64 → Block → Option UInt64}

/-- The first block behind a number that is stamped later than a time. -/
structure FirstOverflow (c : Chain) (last timestamp : UInt64) (p : Page) : Prop where
  mem : p ∈ c.pages
  behind : last < p.number
  later : timestamp < p.timestamp
  least : ∀ q ∈ c.pages, last < q.number → timestamp < q.timestamp → p.number ≤ q.number

lemma mem_drop_succ : p ∈ c.pages.drop (last.toNat + 1) ↔ p ∈ c.pages ∧ last < p.number := by
  rw [mem_drop_pages, UInt64.lt_iff_toNat_lt, Nat.succ_le_iff]

lemma firstOverflow?_eq_some_iff : c.firstOverflow? last timestamp = some b ↔
    ∃ p, c.FirstOverflow last timestamp p ∧ p.block = b := by
  have asymm (p q : Page) (h : p.number < q.number) : ¬ q.number < p.number :=
    UInt64.lt_asymm h
  simp only [firstOverflow?, Option.map_eq_some_iff,
    find?_eq_some_iff_of_pairwise asymm ((pairwise_number c).drop (i := last.toNat + 1)),
    mem_drop_succ, decide_eq_true_iff, UInt64.not_lt, and_imp]
  refine exists_congr fun p => and_congr_left fun _ => ?_
  constructor
  · rintro ⟨⟨hmem, hbehind⟩, hlater, hleast⟩
    exact ⟨hmem, hbehind, hlater, hleast⟩
  · intro h
    exact ⟨⟨h.mem, h.behind⟩, h.later, h.least⟩

lemma firstOverflow?_eq_none_iff : c.firstOverflow? last timestamp = none ↔
    ∀ p ∈ c.pages, last < p.number → ¬ timestamp < p.timestamp := by
  simp only [firstOverflow?, Option.map_eq_none_iff, List.find?_eq_none, mem_drop_succ,
    decide_eq_true_iff, and_imp]

/-- The number behind a number; there is none behind the last one. -/
def next? (number : UInt64) : Option UInt64 :=
  if number.toNat + 1 < UInt64.size then some (number + 1) else none

/-- A run of a search for the first block that is stamped later than a time. Behind a block that is
not, it goes on with the next number. -/
inductive Search (c : Chain) (next : UInt64 → Block → Option UInt64) (timestamp : UInt64) :
    UInt64 → Option Block → Prop
  | missing {number : UInt64} (hb : c.block? number = none) : Search c next timestamp number none
  | found {number : UInt64} {b : Block} (hb : c.block? number = some b)
    (hlater : timestamp < b.timestamp) : Search c next timestamp number (some b)
  | stopped {number : UInt64} {b : Block} (hb : c.block? number = some b)
    (hearly : ¬ timestamp < b.timestamp) (hn : next number b = none) :
    Search c next timestamp number none
  | onward {number n : UInt64} {b : Block} {found : Option Block} (hb : c.block? number = some b)
    (hearly : ¬ timestamp < b.timestamp) (hn : next number b = some n)
    (hrest : Search c next timestamp n found) : Search c next timestamp number found

/-- The prover's search follows the numbers of the blocks; the last number is followed by itself. -/
def Follows (c : Chain) : UInt64 → UInt64 → Option Block → Prop :=
  c.Search fun _ b => some (ahead b.number 1)

/-- The validator's search counts. -/
def Counts (c : Chain) : UInt64 → UInt64 → Option Block → Prop :=
  c.Search fun number _ => next? number

section Search

def overflowFrom? (c : Chain) (timestamp number : UInt64) : Option Block :=
  ((c.pages.drop number.toNat).find? (timestamp < ·.timestamp)).map Page.block

lemma overflowFrom?_of_missing (hb : c.block? number = none) :
    c.overflowFrom? timestamp number = none := by
  have hlen := List.getElem?_eq_none_iff.mp (Option.map_eq_none_iff.mp hb)
  rw [overflowFrom?, List.drop_eq_nil_of_le hlen]
  rfl

lemma drop_number (hp : p ∈ c.pages) :
    c.pages.drop p.number.toNat = p :: c.pages.drop (p.number.toNat + 1) := by
  obtain ⟨hlt, hget⟩ := List.getElem?_eq_some_iff.mp (getElem?_number hp)
  rw [List.drop_eq_getElem_cons hlt, hget]

lemma overflowFrom?_eq (hb : c.block? number = some b) (timestamp : UInt64) :
    c.overflowFrom? timestamp number =
      if timestamp < b.timestamp then some b else c.firstOverflow? number timestamp := by
  obtain ⟨p, hp, rfl, rfl⟩ := block?_eq_some_iff.mp hb
  rw [overflowFrom?, drop_number hp, show p.block.timestamp = p.timestamp from rfl]
  split
  · next hlater => simp [hlater]
  · next hearly => simp [hearly, firstOverflow?]

lemma overflowFrom?_next? (number timestamp : UInt64) :
    (next? number).bind (c.overflowFrom? timestamp) = c.firstOverflow? number timestamp := by
  rw [next?]
  split
  · next h =>
    rw [Option.bind_some, overflowFrom?, UInt64.toNat_add, UInt64.toNat_one, Nat.mod_eq_of_lt h]
    rfl
  · next h =>
    have hle := c.pages_le
    rw [firstOverflow?, List.drop_eq_nil_of_le (by omega)]
    rfl

lemma overflowFrom?_ahead (few : c.pages.length < UInt64.size) (last timestamp : UInt64) :
    c.overflowFrom? timestamp (ahead last 1) = c.firstOverflow? last timestamp := by
  rw [overflowFrom?, firstOverflow?, toNat_ahead, UInt64.toNat_one]
  rcases Nat.le_total (last.toNat + 1) (UInt64.size - 1) with h | h
  · rw [Nat.min_eq_left h]
  · rw [Nat.min_eq_right h, List.drop_eq_nil_of_le (by omega), List.drop_eq_nil_of_le (by omega)]

/-- A search that leaves no block out and comes to greater and greater numbers. -/
structure Advances (c : Chain) (next : UInt64 → Block → Option UInt64) : Prop where
  lt : ∀ {number n b}, c.block? number = some b → next number b = some n → number < n
  complete : ∀ {number b} (timestamp), c.block? number = some b →
    (next number b).bind (c.overflowFrom? timestamp) = c.firstOverflow? number timestamp

lemma lt_ahead (few : c.pages.length < UInt64.size) (hb : c.block? number = some b) :
    number < ahead b.number 1 := by
  obtain ⟨p, hp, rfl, rfl⟩ := block?_eq_some_iff.mp hb
  have hlt := toNat_number_lt hp
  rw [show p.block.number = p.number from rfl, UInt64.lt_iff_toNat_lt, toNat_ahead,
    UInt64.toNat_one]
  omega

lemma advances_follows (few : c.pages.length < UInt64.size) :
    c.Advances fun _ b => some (ahead b.number 1) where
  lt hb hn := Option.some.inj hn ▸ lt_ahead few hb
  complete timestamp hb := by
    rw [Option.bind_some, number_of_block? hb, overflowFrom?_ahead few]

lemma advances_counts (c : Chain) : c.Advances fun number _ => next? number where
  lt {number n b} hb hn := by
    rw [next?, Option.ite_none_right_eq_some] at hn
    obtain ⟨hlt, hn⟩ := hn
    rw [UInt64.lt_iff_toNat_lt, ← Option.some.inj hn, UInt64.toNat_add, UInt64.toNat_one,
      Nat.mod_eq_of_lt hlt]
    exact Nat.lt_succ_self _
  complete timestamp hb := overflowFrom?_next? _ _

lemma Search.eq_overflowFrom? (ha : c.Advances next) (h : c.Search next timestamp number found) :
    found = c.overflowFrom? timestamp number := by
  induction h with
  | missing hb => exact (overflowFrom?_of_missing hb).symm
  | found hb hlater => rw [overflowFrom?_eq hb, if_pos hlater]
  | stopped hb hearly hn =>
    rw [overflowFrom?_eq hb, if_neg hearly, ← ha.complete _ hb, hn, Option.bind_none]
  | onward hb hearly hn hrest ih =>
    rw [overflowFrom?_eq hb, if_neg hearly, ← ha.complete _ hb, hn, Option.bind_some, ih]

/-- A search ends, since there are only so many numbers. -/
lemma Advances.exists_search (ha : c.Advances next) (timestamp number : UInt64) :
    ∃ found, c.Search next timestamp number found := by
  generalize hk : UInt64.size - number.toNat = k
  induction k using Nat.strong_induction_on generalizing number with
  | h k ih =>
    cases hb : c.block? number with
    | none => exact ⟨none, .missing hb⟩
    | some b =>
      by_cases hlater : timestamp < b.timestamp
      · exact ⟨some b, .found hb hlater⟩
      · cases hn : next number b with
        | none => exact ⟨none, .stopped hb hlater hn⟩
        | some n =>
          have hlt := UInt64.lt_iff_toNat_lt.mp (ha.lt hb hn)
          have hsize := n.toNat_lt_size
          obtain ⟨found, hrest⟩ := ih _ (by omega) n rfl
          exact ⟨found, .onward hb hlater hn hrest⟩

lemma Advances.search_iff (ha : c.Advances next) :
    c.Search next timestamp number found ↔ found = c.overflowFrom? timestamp number := by
  constructor
  · exact Search.eq_overflowFrom? ha
  · rintro rfl
    obtain ⟨found, h⟩ := ha.exists_search timestamp number
    rwa [← h.eq_overflowFrom? ha]

lemma laterFrom_eq (c : Chain) (timestamp number : UInt64) :
    c.ledger.laterFrom timestamp number = .ok (c.overflowFrom? timestamp number) := by
  fun_induction Ledger.laterFrom c.ledger timestamp number with
  | case1 number e hb => cases hb
  | case2 number hb => rw [overflowFrom?_of_missing (Except.ok.inj hb)]
  | case3 number b hb hlater => rw [overflowFrom?_eq (Except.ok.inj hb), if_pos hlater]
  | case4 number b hb hearly hroom ih =>
    have heq := overflowFrom?_eq (Except.ok.inj hb) timestamp
    rw [ih, heq, if_neg hearly, ← overflowFrom?_next?, next?, if_pos hroom, Option.bind_some]
  | case5 number b hb hearly hroom =>
    rw [overflowFrom?_eq (Except.ok.inj hb), if_neg hearly, ← overflowFrom?_next?, next?,
      if_neg hroom, Option.bind_none]

lemma overflowBlock_eq (few : c.pages.length < UInt64.size) (last timestamp : UInt64) :
    c.ledger.overflowBlock last timestamp =
      match c.firstOverflow? last timestamp with
      | some b => .ok b
      | none => .error (.overflowNotFound last timestamp c.height) := by
  rw [Ledger.overflowBlock, laterFrom_eq, overflowFrom?_ahead few]
  cases c.firstOverflow? last timestamp <;> rfl

end Search

section Final

lemma isConfirmed_iff (few : c.pages.length < UInt64.size) : c.isConfirmed number = true ↔
    number.toNat + c.confirmations.toNat ≤ c.height.toNat := by
  have hpos := c.pages_pos
  rw [isConfirmed, decide_eq_true_iff, UInt64.le_iff_toNat_le, toNat_ahead, toNat_height]
  omega

lemma exists_finalBlock (h : c.isConfirmed number = true) :
    ∃ b, c.ledger.finalBlock number = .ok b := by
  rw [isConfirmed, decide_eq_true_iff, ← isSome_block?] at h
  obtain ⟨b, hb⟩ := Option.isSome_iff_exists.mp h
  have hl : c.ledger.block (ahead number c.ledger.confirmations) = .ok (some b) :=
    congrArg Except.ok hb
  refine ⟨b, ?_⟩
  rw [Ledger.finalBlock, hl]
  rfl

lemma finalBlock_of_unconfirmed (h : c.isConfirmed number = false) :
    c.ledger.finalBlock number = .error (.subjectNotFound
      s!"finalization block {ahead number c.confirmations}" c.height) := by
  rw [isConfirmed, decide_eq_false_iff_not, ← isSome_block?, Bool.not_eq_true,
    Option.isSome_eq_false_iff, Option.isNone_iff_eq_none] at h
  have hl : c.ledger.block (ahead number c.ledger.confirmations) = .ok none :=
    congrArg Except.ok h
  rw [Ledger.finalBlock, hl]
  rfl

lemma finalBlock_eq_ok_iff :
    (∃ b, c.ledger.finalBlock number = .ok b) ↔ c.isConfirmed number = true := by
  refine ⟨fun ⟨b, hb⟩ => ?_, exists_finalBlock⟩
  by_contra h
  rw [finalBlock_of_unconfirmed (Bool.eq_false_iff.mpr h)] at hb
  cases hb

lemma locate_of_absent (h : c.transaction? hash = none) : c.ledger.locate hash =
    .error (.subjectNotFound s!"transaction {hash.toText}" c.height) := by
  have hl : c.ledger.transaction hash = .ok none := by
    simp only [ledger, h, Option.map_none]
  rw [Ledger.locate, hl]
  rfl

section Found

variable (h : c.transaction? hash = some (t, number))
include h

lemma exists_block_of_transaction? : ∃ b, c.block? number = some b ∧
    c.ledger.locate hash = c.ledger.finalBlock number >>= fun _ => .ok (t, b.id) := by
  obtain ⟨p, hp, rfl, -⟩ := exists_page_of_transaction? h
  have hblock := block?_number hp
  have ht : c.ledger.transaction hash = .ok (some t) := by
    simp only [ledger, h, Option.map_some]
  have hb : c.ledger.blockOf hash = .ok (some p.block.id) := by
    simp only [ledger, h, Option.bind_some, hblock, Option.map_some]
  refine ⟨p.block, hblock, ?_⟩
  rw [Ledger.locate, ht, Except.ok_bind]
  simp only [hb, Except.ok_bind]
  rfl

lemma locate_of_unconfirmed (hc : c.isConfirmed number = false) : c.ledger.locate hash =
    .error (.subjectNotFound s!"finalization block {ahead number c.confirmations}" c.height) := by
  obtain ⟨b, -, hl⟩ := exists_block_of_transaction? h
  rw [hl, finalBlock_of_unconfirmed hc]
  rfl

lemma locate_of_confirmed (hc : c.isConfirmed number = true) :
    ∃ b, b.number = number ∧ Validation.Confirmed c (Word.toBytes hash) (.ofNat number.toNat) t b ∧
      c.ledger.locate hash = .ok (t, b.id) := by
  obtain ⟨b, hb, hl⟩ := exists_block_of_transaction? h
  obtain ⟨final, hf⟩ := exists_finalBlock hc
  obtain rfl := number_of_block? hb
  obtain rfl := hash_of_transaction? h
  refine ⟨b, rfl, ⟨Hash.ofBytes?_toBytes _, h, Validation.uint64?_ofNat _ _, hc, hb⟩, ?_⟩
  rw [hl, hf]
  rfl

end Found

lemma locate_eq_ok_iff : c.ledger.locate hash = .ok (t, id) ↔
    ∃ b, Validation.Confirmed c (Word.toBytes hash) (.ofNat id.number.toNat) t b ∧ b.id = id := by
  constructor
  · intro hl
    cases hf : c.transaction? hash with
    | none =>
      rw [locate_of_absent hf] at hl
      cases hl
    | some x =>
      obtain ⟨t', number⟩ := x
      cases hc : c.isConfirmed number with
      | false =>
        rw [locate_of_unconfirmed hf hc] at hl
        cases hl
      | true =>
        obtain ⟨b, rfl, h, hok⟩ := locate_of_confirmed hf hc
        rw [hok] at hl
        cases hl
        exact ⟨b, h, rfl⟩
  · rintro ⟨b, h, rfl⟩
    have hhash := Option.some.inj ((Hash.ofBytes?_toBytes hash).symm.trans h.id)
    obtain ⟨b', hn, h', hl⟩ := locate_of_confirmed (hhash ▸ h.found) h.confirmed
    cases h.block.symm.trans (hn ▸ h'.block)
    exact hl

end Final

theorem located_iff_confirmed (few : c.pages.length < UInt64.size) :
    (∀ last timestamp,
      (∀ found, c.Follows timestamp (ahead last 1) found ↔
        found = c.firstOverflow? last timestamp) ∧
      (∀ first found, next? last = some first →
        (c.Counts timestamp first found ↔ found = c.firstOverflow? last timestamp)) ∧
      (next? last = none → c.firstOverflow? last timestamp = none) ∧
      (∀ b, (c.ledger.overflowBlock last timestamp = .ok b ↔
          c.firstOverflow? last timestamp = some b) ∧
        (c.firstOverflow? last timestamp = some b ↔
          ∃ p, c.FirstOverflow last timestamp p ∧ p.block = b)) ∧
      (c.firstOverflow? last timestamp = none → c.ledger.overflowBlock last timestamp =
        .error (.overflowNotFound last timestamp c.height))) ∧
    (∀ number, (∃ b, c.ledger.finalBlock number = .ok b) ↔ c.isConfirmed number = true) ∧
    ∀ hash t id, c.ledger.locate hash = .ok (t, id) ↔
      ∃ b, Validation.confirmed? c (Word.toBytes hash) (.ofNat id.number.toNat) = some (t, b) ∧
        b.id = id := by
  refine ⟨fun last timestamp => ⟨?follows, ?counts, ?none, ?block, ?error⟩,
    fun number => finalBlock_eq_ok_iff, fun hash t id => ?locate⟩
  case follows =>
    intro found
    rw [Follows, (advances_follows few).search_iff, overflowFrom?_ahead few]
  case counts =>
    intro first found hfirst
    rw [Counts, (advances_counts c).search_iff, ← overflowFrom?_next?, hfirst, Option.bind_some]
  case none =>
    intro hnone
    rw [← overflowFrom?_next?, hnone, Option.bind_none]
  case block =>
    intro b
    refine ⟨?_, firstOverflow?_eq_some_iff⟩
    rw [overflowBlock_eq few]
    cases c.firstOverflow? last timestamp <;> simp
  case error =>
    intro hnone
    rw [overflowBlock_eq few, hnone]
  case locate =>
    simp only [locate_eq_ok_iff, Validation.confirmed?_eq_some_iff]

/-- Of the blocks 0, 1 and 2 the last one is the first that is stamped later than 1700000010, and
none is stamped later than 1700000020. -/
theorem located_iff_confirmed_three : ∃ (c : Chain) (p : Page),
    c.Reachable ∧ c.pages.length < UInt64.size ∧ p.number = 2 ∧ c.FirstOverflow 0 1700000010 p ∧
      c.Follows 1700000010 1 (some p.block) ∧ c.Counts 1700000010 1 (some p.block) ∧
      c.ledger.overflowBlock 0 1700000010 = .ok p.block ∧
      c.ledger.overflowBlock 0 1700000020 = .error (.overflowNotFound 0 1700000020 2) ∧
      (∃ b, c.ledger.finalBlock 1 = .ok b) ∧ ¬ ∃ b, c.ledger.finalBlock 2 = .ok b := by
  let c := (start .btc 1 10).mineEmpty 2
  let p : Page := c.newest
  have few : c.pages.length < UInt64.size := by decide
  obtain ⟨hsearch, hfinal, -⟩ := located_iff_confirmed few
  obtain ⟨hfollows, hcounts, -, hblock, -⟩ := hsearch 0 1700000010
  have hfound : c.firstOverflow? 0 1700000010 = some p.block := rfl
  obtain ⟨q, hq, hqb⟩ := (hblock p.block).2.mp hfound
  have hqp : q = p := by
    have hmem : p ∈ c.pages := List.getLast_mem _
    exact eq_of_number_eq hq.mem hmem (congrArg Block.number hqb)
  refine ⟨c, p, ⟨.btc, 1, 10, [.mineEmpty 2], rfl⟩, few, rfl, hqp ▸ hq, ?_, ?_, ?_, ?_, ?_, ?_⟩
  · exact (hfollows _).mpr hfound.symm
  · exact (hcounts 1 _ rfl).mpr hfound.symm
  · exact (hblock p.block).1.mpr hfound
  · exact (hsearch 0 1700000020).2.2.2.2 rfl
  · exact (hfinal 1).mpr rfl
  · rw [hfinal 2]
    decide

end Attestation.Chain
