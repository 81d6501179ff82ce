import Mathlib
import Attestation.Proofs.Chain.Pages

/-!
Chains as they are kept: blocks that list the hashes of their transactions, and beside them an index
of the transactions. What is mined goes into both, and replaces what the index holds under the same
hash. Main statement: behind every history the blocks and the index answer each look-up as the chain
does, the answers fit together, and no block changes afterwards (`index_consistent`).
-/

namespace Attestation.Chain

/-- The index holds each transaction with the number of its block. -/
structure Indexed where
  blockTime : UInt64
  blocks : List Block
  index : Std.HashMap Hash (Transaction × UInt64)
  skipped : UInt64

namespace Indexed

def start (blockTime : UInt64) : Indexed where
  blockTime := if blockTime = 0 then 1 else blockTime
  blocks := [(Page.of 0 firstTimestamp []).block]
  index := ∅
  skipped := 0

def next (x : Indexed) (transactions : List Transaction) : Page :=
  .of (UInt64.ofNat x.blocks.length)
    (x.blocks.getLast?.elim firstTimestamp Block.timestamp + x.blockTime + x.skipped) transactions

def record (number : UInt64) (transactions : List Transaction)
    (index : Std.HashMap Hash (Transaction × UInt64)) : Std.HashMap Hash (Transaction × UInt64) :=
  transactions.foldl (fun index t => index.insert t.hash (t, number)) index

/-- Mines the next block, as long as there is a number for it. -/
def mine (x : Indexed) (transactions : List Transaction) : Indexed :=
  if x.blocks.length < UInt64.size then
    { x with
      blocks := x.blocks ++ [(x.next transactions).block]
      index := record (x.next transactions).number transactions x.index
      skipped := 0 }
  else x

def mineEmpty : ℕ → Indexed → Indexed
  | 0, x => x
  | n + 1, x => mineEmpty n (x.mine [])

def skipTime (x : Indexed) (seconds : UInt64) : Indexed :=
  { x with skipped := ahead x.skipped seconds }

def apply (x : Indexed) : Event → Indexed
  | .mine transactions => x.mine transactions
  | .mineEmpty count => mineEmpty count x
  | .skipTime seconds => x.skipTime seconds

def after (x : Indexed) (events : List Event) : Indexed :=
  events.foldl apply x

def height (x : Indexed) : UInt64 :=
  x.blocks.getLast?.elim 0 Block.number

def block? (x : Indexed) (number : UInt64) : Option Block :=
  x.blocks[number.toNat]?

def blocksBetween (x : Indexed) (first last : UInt64) : List Block :=
  x.blocks.filter fun b => first ≤ b.number && b.number ≤ last

def transaction? (x : Indexed) (hash : Hash) : Option (Transaction × UInt64) :=
  x.index[hash]?

lemma getElem?_record (number : UInt64) (transactions : List Transaction)
    (index : Std.HashMap Hash (Transaction × UInt64)) (hash : Hash) :
    (record number transactions index)[hash]? =
      ((transactions.reverse.find? (·.hash == hash)).map (·, number)).or index[hash]? := by
  induction transactions generalizing index with
  | nil => rfl
  | cons t transactions ih =>
    refine (ih (index.insert t.hash (t, number))).trans ?_
    rw [List.reverse_cons, List.find?_append, Std.HashMap.getElem?_insert, List.find?_singleton]
    cases transactions.reverse.find? (·.hash == hash) with
    | some t' => rfl
    | none => cases t.hash == hash <;> rfl

end Indexed

/-- The blocks and the index hold what the pages of a chain hold. -/
structure Mirrors (x : Indexed) (c : Chain) : Prop where
  blockTime : x.blockTime = c.blockTime
  blocks : x.blocks = c.pages.map Page.block
  transaction? : ∀ hash, x.transaction? hash = c.transaction? hash
  skipped : x.skipped = c.skipped

variable {x : Indexed} {c : Chain} {p : Page} {t : Transaction} {hash : Hash} {number : UInt64}

namespace Mirrors

lemma start (source : Source) (confirmations blockTime : UInt64) :
    Mirrors (.start blockTime) (start source confirmations blockTime) where
  blockTime := rfl
  blocks := rfl
  transaction? _ := Std.HashMap.getElem?_empty
  skipped := rfl

section Step

variable (h : Mirrors x c)
include h

lemma length_blocks : x.blocks.length = c.pages.length := by
  rw [h.blocks, List.length_map]

lemma getLast?_blocks : x.blocks.getLast? = some c.newest.block := by
  rw [h.blocks, List.getLast?_map, List.getLast?_eq_some_getLast]
  rfl

lemma next (transactions : List Transaction) : x.next transactions = c.next transactions := by
  rw [Indexed.next, h.length_blocks, h.getLast?_blocks, h.blockTime, h.skipped]
  rfl

lemma mine (transactions : List Transaction) :
    Mirrors (x.mine transactions) (c.mine transactions) := by
  rw [Indexed.mine, h.length_blocks, h.next]
  split
  · next room =>
    refine ⟨h.blockTime.trans (blockTime_mine c transactions).symm, ?_, fun hash => ?_, ?_⟩
    · rw [pages_mine_of_room transactions room, List.map_append, h.blocks]
      rfl
    · rw [transaction?_mine_of_room transactions room, ← h.transaction? hash]
      exact Indexed.getElem?_record _ transactions x.index hash
    · rw [Chain.mine, dif_pos room]
  · next full => rwa [Chain.mine, dif_neg full]

lemma mineEmpty (count : ℕ) : Mirrors (Indexed.mineEmpty count x) (Chain.mineEmpty count c) := by
  induction count generalizing x c with
  | zero => exact h
  | succ count ih => exact ih (h.mine [])

lemma apply (event : Event) : Mirrors (x.apply event) (c.apply event) := by
  cases event with
  | mine transactions => exact h.mine transactions
  | mineEmpty count => exact h.mineEmpty count
  | skipTime seconds =>
    exact ⟨h.blockTime, h.blocks, h.transaction?, congrArg (ahead · seconds) h.skipped⟩

lemma after (events : List Event) : Mirrors (x.after events) (c.after events) := by
  induction events generalizing x c with
  | nil => exact h
  | cons event events ih => exact ih (h.apply event)

lemma height : x.height = c.height := by
  rw [Indexed.height, h.getLast?_blocks]
  rfl

lemma block? (number : UInt64) : x.block? number = c.block? number := by
  rw [Indexed.block?, h.blocks, List.getElem?_map]
  rfl

lemma blocksBetween (first last : UInt64) :
    x.blocksBetween first last = c.blocksBetween first last := by
  rw [Indexed.blocksBetween, h.blocks, List.filter_map]
  rfl

end Step

end Mirrors

/-- What the answers of a chain say about each other. -/
structure Consistent (c : Chain) : Prop where
  mined : ∀ number, (c.block? number).isSome ↔ number ≤ c.height
  numbered : ∀ number b, c.block? number = some b → b.number = number
  between : ∀ first last, (c.blocksBetween first last).map some =
    (List.range' first.toNat (min last.toNat c.height.toNat + 1 - first.toNat)).map
      fun n => c.block? (UInt64.ofNat n)
  listed : ∀ number b, c.block? number = some b → ∀ hash ∈ b.transactions,
    ∃ t later b', c.transaction? hash = some (t, later) ∧ t.hash = hash ∧ number ≤ later ∧
      c.block? later = some b' ∧ hash ∈ b'.transactions
  recorded : ∀ hash t number, c.transaction? hash = some (t, number) →
    t.hash = hash ∧ ∃ b, c.block? number = some b ∧ hash ∈ b.transactions

lemma map_number_filter (c : Chain) (first last : UInt64) :
    ((c.pages.filter fun p => first ≤ p.number && p.number ≤ last).map (·.number.toNat)) =
      List.range' first.toNat (min last.toNat c.height.toNat + 1 - first.toNat) := by
  have hordered := ((pairwise_number c).filter fun p => first ≤ p.number && p.number ≤ last).map
    (·.number.toNat) (S := (· < ·)) fun _ _ => UInt64.lt_iff_toNat_lt.mp
  refine hordered.eq_of_mem_iff List.pairwise_lt_range' fun n => ?_
  have hheight := c.toNat_height
  have hpos := c.pages_pos
  simp only [List.mem_map, List.mem_filter, Bool.and_eq_true, decide_eq_true_iff,
    UInt64.le_iff_toNat_le, List.mem_range'_1]
  constructor
  · rintro ⟨p, ⟨hp, hfirst, hlast⟩, rfl⟩
    have hlt := toNat_number_lt hp
    omega
  · rintro ⟨hfirst, hlast⟩
    have hlt : n < c.pages.length := by omega
    have hnumber := c.numbered n hlt
    exact ⟨c.pages[n], ⟨List.getElem_mem hlt, by omega, by omega⟩, hnumber⟩

lemma map_some_blocksBetween (c : Chain) (first last : UInt64) :
    (c.blocksBetween first last).map some =
      (List.range' first.toNat (min last.toNat c.height.toNat + 1 - first.toNat)).map
        fun n => c.block? (UInt64.ofNat n) := by
  rw [← map_number_filter, blocksBetween, List.map_map, List.map_map]
  refine List.map_congr_left fun p hp => ?_
  rw [Function.comp_apply, Function.comp_apply, UInt64.ofNat_toNat,
    block?_number (List.mem_of_mem_filter hp)]

-- The search comes from the newest page, so that it passes those behind the page it stops at.
lemma number_le_of_transaction? (hf : c.transaction? hash = some (t, number)) (hp : p ∈ c.pages)
    (hlists : hash ∈ p.block.transactions) : p.number ≤ number := by
  obtain ⟨newer, q, older, hpages, hq, hnewer⟩ := List.findSome?_eq_some_iff.mp hf
  obtain ⟨_, _, hnumber⟩ := Option.map_eq_some_iff.mp hq
  cases hnumber
  have hordered := List.pairwise_reverse.mpr c.pairwise_number
  rw [hpages] at hordered
  have hmem : p ∈ newer ++ q :: older := hpages ▸ List.mem_reverse.mpr hp
  rcases List.mem_append.mp hmem with hn | ho
  · obtain ⟨t', ht, hlisted⟩ := List.mem_map.mp hlists
    have hnone := List.find?_eq_none.mp (Option.map_eq_none_iff.mp (hnewer p hn))
    exact absurd (beq_iff_eq.mpr hlisted) (hnone t' (List.mem_reverse.mpr ht))
  · rcases List.mem_cons.mp ho with rfl | ho
    · exact UInt64.le_refl _
    · have hbehind := (List.pairwise_cons.mp (List.pairwise_append.mp hordered).2.1).1
      exact UInt64.le_of_lt (hbehind p ho)

lemma listed_block_of_transaction? (hf : c.transaction? hash = some (t, number)) :
    ∃ b, c.block? number = some b ∧ hash ∈ b.transactions := by
  obtain ⟨q, hq, rfl, ht⟩ := exists_page_of_transaction? hf
  exact ⟨q.block, block?_number hq, List.mem_map.mpr ⟨t, ht, hash_of_transaction? hf⟩⟩

lemma consistent (c : Chain) : c.Consistent where
  mined := c.isSome_block?
  numbered _ _ := number_of_block?
  between := c.map_some_blocksBetween
  listed := by
    intro number b hb hash hhash
    obtain ⟨p, hp, rfl, rfl⟩ := block?_eq_some_iff.mp hb
    obtain ⟨t, ht, hlists⟩ := List.mem_map.mp hhash
    obtain ⟨t', later, hf⟩ := exists_transaction? ⟨p, hp, t, ht, hlists⟩
    obtain ⟨b', hb', hhash'⟩ := listed_block_of_transaction? hf
    exact ⟨t', later, b', hf, hash_of_transaction? hf, number_le_of_transaction? hf hp hhash, hb',
      hhash'⟩
  recorded _ _ _ hf := ⟨hash_of_transaction? hf, listed_block_of_transaction? hf⟩

theorem index_consistent (source : Source) (confirmations blockTime : UInt64)
    (events : List Event) :
    let c := (start source confirmations blockTime).after events
    let x := (Indexed.start blockTime).after events
    x.height = c.height ∧ x.block? = c.block? ∧ x.blocksBetween = c.blocksBetween ∧
    x.transaction? = c.transaction? ∧ c.Consistent ∧
    ∀ later number b, c.block? number = some b → (c.after later).block? number = some b := by
  intro c x
  have h : Mirrors x c := (Mirrors.start source confirmations blockTime).after events
  refine ⟨h.height, funext h.block?, ?_, funext h.transaction?, c.consistent, ?_⟩
  · funext first last
    exact h.blocksBetween first last
  · intro later number b hb
    exact block?_of_prefix (c.pages_after later) hb

end Attestation.Chain
