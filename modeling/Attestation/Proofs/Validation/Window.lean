import Mathlib
import Attestation.Proofs.Codec.Field
import Attestation.Proofs.Except
import Attestation.Validation

/-!
Blocks and transactions of a chain as the validator looks them up. A transaction lies in the block
under whose number it is found (`exists_page_of_transaction?`), and those of a window are the ones
found under the hashes that its blocks list (`mem_transactionsBetween`).
-/

namespace Attestation

variable {c : Chain} {p : Page} {t t' : Transaction} {hash : Hash} {number first past : UInt64}
  {n : Numeral} {key : String}

lemma Page.transaction?_eq_some (h : p.transaction? hash = some t) :
    t ∈ p.transactions ∧ t.hash = hash := by
  have hm := List.mem_of_find?_eq_some h
  have he := List.find?_some h
  exact ⟨List.mem_reverse.mp hm, beq_iff_eq.mp he⟩

namespace Chain

lemma hash_of_transaction? (h : c.transaction? hash = some (t, number)) : t.hash = hash := by
  obtain ⟨p, -, hp⟩ := List.exists_of_findSome?_eq_some h
  obtain ⟨t', ht, he⟩ := Option.map_eq_some_iff.mp hp
  cases he
  exact (Page.transaction?_eq_some ht).2

lemma exists_page_of_transaction? (h : c.transaction? hash = some (t, number)) :
    ∃ p ∈ c.pages, p.number = number ∧ t ∈ p.transactions := by
  obtain ⟨p, hm, hp⟩ := List.exists_of_findSome?_eq_some h
  obtain ⟨t', ht, he⟩ := Option.map_eq_some_iff.mp hp
  cases he
  exact ⟨p, List.mem_reverse.mp hm, rfl, (Page.transaction?_eq_some ht).1⟩

lemma mem_window : p ∈ (c.pages.take past.toNat).drop first.toNat ↔
    p ∈ c.pages ∧ first ≤ p.number ∧ p.number < past := by
  simp only [List.mem_iff_getElem?, List.getElem?_drop, UInt64.le_iff_toNat_le,
    UInt64.lt_iff_toNat_lt]
  -- Pages lie in the places that their numbers say.
  constructor
  · rintro ⟨i, hi⟩
    obtain ⟨hlt, hi⟩ := List.getElem?_eq_some_iff.mp hi
    rw [List.length_take] at hlt
    rw [List.getElem_take] at hi
    have hn := c.numbered (first.toNat + i) (by omega)
    rw [hi] at hn
    exact ⟨⟨_, List.getElem?_eq_some_iff.mpr ⟨_, hi⟩⟩, by omega, by omega⟩
  · rintro ⟨⟨i, hi⟩, hfirst, hpast⟩
    obtain ⟨hlt, hp⟩ := List.getElem?_eq_some_iff.mp hi
    have hn := c.numbered i hlt
    rw [hp] at hn
    refine ⟨i - first.toNat, ?_⟩
    rw [Nat.add_sub_cancel' (by omega), List.getElem?_take_of_lt (by omega)]
    exact hi

end Chain

namespace Validation

lemma uint64?_eq_some_iff : uint64? n key = some number ↔
    ∃ w, n.value = .ok w ∧ w.toNat = number.toNat := by
  simp only [uint64?, Numeral.resolve64, Except.toOption_eq_some_iff, Except.bind_eq_ok_iff,
    Codec.resolve_eq_ok_iff]
  refine exists_congr fun w => and_congr_right fun _ => ?_
  have hlt := number.toNat_lt
  constructor
  · intro h
    split at h
    · next hw =>
      cases h
      exact (UInt64.toNat_ofNat_of_lt' hw).symm
    · cases h
  · intro h
    rw [if_pos (h ▸ hlt), h, UInt64.ofNat_toNat]
    rfl

lemma index?_eq_some_iff {index : UInt8} : index? n key = some index ↔
    ∃ w, n.value = .ok w ∧ w.toNat = index.toNat := by
  simp only [index?, Option.bind_eq_bind, Option.bind_eq_some_iff, uint64?_eq_some_iff,
    Option.ite_none_right_eq_some, Option.some.injEq]
  have hlt : index.toNat < 256 := index.toNat_lt
  constructor
  · rintro ⟨i, ⟨w, hw, hi⟩, hsmall, rfl⟩
    have hsmall : i.toNat < 256 := UInt64.lt_iff_toNat_lt.mp hsmall
    refine ⟨w, hw, ?_⟩
    rw [hi, UInt64.toNat_toUInt8, Nat.mod_eq_of_lt hsmall]
  · rintro ⟨w, hw, hi⟩
    refine ⟨index.toUInt64, ⟨w, hw, ?_⟩, ?_, ?_⟩
    · rw [hi, UInt8.toNat_toUInt64]
    · rw [UInt64.lt_iff_toNat_lt, UInt8.toNat_toUInt64]
      exact hlt
    · rw [UInt8.toUInt8_toUInt64]

lemma uint64?_congr {m : Numeral} (h : m.value = n.value) (key : String) :
    uint64? m key = uint64? n key := by
  rw [uint64?, Numeral.resolve64, Numeral.resolve, h]
  rfl

lemma index?_congr {m : Numeral} (h : m.value = n.value) (key : String) :
    index? m key = index? n key := by
  rw [index?, uint64?_congr h, index?]

lemma uint64?_ofNat (number : UInt64) (key : String) :
    uint64? (.ofNat number.toNat) key = some number :=
  uint64?_eq_some_iff.mpr ⟨_, rfl, Nat.mod_eq_of_lt (number.toNat_lt.trans (by decide))⟩

structure Confirmed (c : Chain) (id : Bytes) (blockNumber : Numeral) (t : Transaction) (b : Block) :
    Prop where
  id : Hash.ofBytes? id = some t.hash
  found : c.transaction? t.hash = some (t, b.number)
  blockNumber : uint64? blockNumber "blockNumber" = some b.number
  confirmed : c.isConfirmed b.number = true
  block : c.block? b.number = some b

lemma confirmed?_eq_some_iff {id : Bytes} {blockNumber : Numeral} {b : Block} :
    confirmed? c id blockNumber = some (t, b) ↔ Confirmed c id blockNumber t b := by
  simp only [confirmed?, Option.bind_eq_bind, Option.bind_eq_some_iff, Option.guard_eq_some',
    Option.pure_def, Option.some.injEq, exists_const, Prod.exists, Prod.mk.injEq]
  constructor
  · rintro ⟨hash, hid, t', number, hfound, n, hn, ⟨rfl, hconfirmed⟩, b', hblock, rfl, rfl⟩
    obtain rfl := Chain.hash_of_transaction? hfound
    obtain rfl := Chain.number_of_block? hblock
    exact ⟨hid, hfound, hn, hconfirmed, hblock⟩
  · intro h
    exact ⟨_, h.id, t, _, h.found, _, h.blockNumber, ⟨rfl, h.confirmed⟩, b, h.block, rfl, rfl⟩

lemma confirmed?_congr {x y : Bytes} {m : Numeral} (hid : Hash.ofBytes? x = Hash.ofBytes? y)
    (hn : m.value = n.value) : confirmed? c x m = confirmed? c y n := by
  rw [confirmed?, hid, uint64?_congr hn, confirmed?]

lemma mem_transactionsBetween : t' ∈ transactionsBetween c first past ↔
    ∃ p ∈ c.pages, (first ≤ p.number ∧ p.number < past) ∧ ∃ t ∈ p.transactions,
      ∃ number, c.transaction? t.hash = some (t', number) := by
  simp only [transactionsBetween, List.mem_flatMap, Chain.mem_window, List.mem_filterMap,
    Option.map_eq_some_iff, Prod.exists, exists_and_right, exists_eq_right, and_assoc]

end Validation

end Attestation
