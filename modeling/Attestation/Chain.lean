import Attestation.Ledger

/-!
Ledgers in memory. Blocks are mined one after the other and stay: each is stamped a fixed time
behind the one before, plus the time that was skipped. Main statements: a block is found under its
number (`number_of_block?`), exactly up to the height (`isSome_block?`).
-/

namespace Attestation

/-- A mined block with its transactions. -/
structure Page where
  number : UInt64
  timestamp : UInt64
  transactions : List Transaction
  hash : Hash
  deriving DecidableEq, Repr

namespace Page

/-- What the hash of a block is made of: its number, its time and the hashes of its transactions. -/
def preimage (number timestamp : UInt64) (transactions : List Transaction) : Bytes :=
  Bytes.ofNat 8 number.toNat ++ Bytes.ofNat 8 timestamp.toNat ++
    transactions.flatMap fun t => Word.toBytes t.hash

def of (number timestamp : UInt64) (transactions : List Transaction) : Page :=
  ⟨number, timestamp, transactions, keccak (preimage number timestamp transactions)⟩

def block (p : Page) : Block :=
  ⟨p.number, p.hash, p.timestamp, p.transactions.map (·.hash)⟩

/-- The last transaction of the block with a hash. -/
def transaction? (p : Page) (hash : Hash) : Option Transaction :=
  p.transactions.reverse.find? (·.hash == hash)

end Page

structure Chain where
  source : Source
  /-- How many blocks have to follow one before it is final. -/
  confirmations : UInt64
  blockTime : UInt64
  /-- The first block comes first. -/
  pages : List Page
  /-- Seconds by which the next block is late. -/
  skipped : UInt64
  blockTime_pos : 0 < blockTime
  pages_pos : 0 < pages.length
  pages_le : pages.length ≤ UInt64.size
  numbered : ∀ (i : Nat) (h : i < pages.length), pages[i].number.toNat = i

namespace Chain

def firstTimestamp : UInt64 := 1700000000

def standardBlockTime : UInt64 := 10

/-- A ledger with its first block. No two blocks come in the same second. -/
def start (source : Source) (confirmations blockTime : UInt64) : Chain where
  source := source
  confirmations := confirmations
  blockTime := if blockTime = 0 then 1 else blockTime
  pages := [.of 0 firstTimestamp []]
  skipped := 0
  blockTime_pos := by
    split
    · decide
    · next h => exact UInt64.pos_iff_ne_zero.mpr h
  pages_pos := by simp
  pages_le := by decide
  numbered i h := by
    have : i = 0 := by simpa using h
    subst this
    rfl

def newest (c : Chain) : Page :=
  c.pages.getLast (List.ne_nil_of_length_pos c.pages_pos)

def height (c : Chain) : UInt64 :=
  c.newest.number

def next (c : Chain) (transactions : List Transaction) : Page :=
  .of (UInt64.ofNat c.pages.length) (c.newest.timestamp + c.blockTime + c.skipped) transactions

theorem length_pages_next (c : Chain) (transactions : List Transaction) :
    (c.pages ++ [c.next transactions]).length = c.pages.length + 1 :=
  List.length_append

theorem numbered_next (c : Chain) (transactions : List Transaction)
    (room : c.pages.length < UInt64.size) (i : Nat)
    (h : i < (c.pages ++ [c.next transactions]).length) :
    (c.pages ++ [c.next transactions])[i].number.toNat = i := by
  rcases Nat.lt_or_ge i c.pages.length with hi | hi
  · rw [List.getElem_append_left hi]
    exact c.numbered i hi
  · have : i = c.pages.length := by rw [length_pages_next] at h; omega
    subst this
    simp only [List.getElem_append_right (Nat.le_refl _), Nat.sub_self, List.getElem_cons_zero]
    exact UInt64.toNat_ofNat_of_lt' room

/-- Mines the next block, as long as there is a number for it. -/
def mine (c : Chain) (transactions : List Transaction) : Chain :=
  if room : c.pages.length < UInt64.size then
    { c with
      pages := c.pages ++ [c.next transactions]
      skipped := 0
      pages_pos := c.length_pages_next transactions ▸ Nat.succ_pos _
      pages_le := c.length_pages_next transactions ▸ room
      numbered := c.numbered_next transactions room }
  else c

def mineEmpty : Nat → Chain → Chain
  | 0, c => c
  | n + 1, c => mineEmpty n (c.mine [])

/-- The next block comes so much later. -/
def skipTime (c : Chain) (seconds : UInt64) : Chain :=
  { c with skipped := ahead c.skipped seconds }

def block? (c : Chain) (number : UInt64) : Option Block :=
  c.pages[number.toNat]?.map Page.block

/-- The blocks numbered `from` to `to`. -/
def blocksBetween (c : Chain) (first last : UInt64) : List Block :=
  (c.pages.filter fun p => first ≤ p.number && p.number ≤ last).map Page.block

/-- The transaction that was mined last with a hash, and the number of its block. -/
def transaction? (c : Chain) (hash : Hash) : Option (Transaction × UInt64) :=
  c.pages.reverse.findSome? fun p => (p.transaction? hash).map (·, p.number)

def isConfirmed (c : Chain) (number : UInt64) : Bool :=
  ahead number c.confirmations ≤ c.height

/-- The first block behind a number that is stamped later than a time. -/
def firstOverflow? (c : Chain) (deadlineBlock deadlineTimestamp : UInt64) : Option Block :=
  ((c.pages.drop (deadlineBlock.toNat + 1)).find? (deadlineTimestamp < ·.timestamp)).map Page.block

/-- The chain as a ledger; its look-ups do not fail. -/
def ledger (c : Chain) : Ledger where
  source := c.source
  confirmations := c.confirmations
  transaction hash := .ok ((c.transaction? hash).map (·.1))
  blockOf hash := .ok ((c.transaction? hash).bind fun t => (c.block? t.2).map Block.id)
  block number := .ok (c.block? number)
  height := .ok c.height

theorem toNat_height (c : Chain) : c.height.toNat = c.pages.length - 1 := by
  have := c.pages_pos
  rw [height, newest, List.getLast_eq_getElem]
  exact c.numbered _ (by omega)

theorem isSome_block? (c : Chain) (number : UInt64) :
    (c.block? number).isSome ↔ number ≤ c.height := by
  have := c.pages_pos
  simp only [block?, Option.isSome_map, isSome_getElem?, UInt64.le_iff_toNat_le, toNat_height]
  omega

theorem number_of_block? {c : Chain} {number : UInt64} {b : Block}
    (h : c.block? number = some b) : b.number = number := by
  obtain ⟨p, hp, rfl⟩ := Option.map_eq_some_iff.mp h
  obtain ⟨hi, rfl⟩ := List.getElem?_eq_some_iff.mp hp
  exact UInt64.toNat_inj.mp (c.numbered _ hi)

end Chain

end Attestation
