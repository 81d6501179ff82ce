import Mathlib
import Attestation.Proofs.Network.Closing

/-!
What can happen to a network: a request is filed, the current round is closed, or a fault is
switched on or off (`Change`). Whatever happens, closed rounds stay as they are (`Later`), and each
of them is what closing its requests over some ledger gave (`Sound`).
-/

namespace Attestation.Network

variable {n m k : Network} {round : UInt64} {data : Bytes} {request : Request} {id : RequestId}

/-- Files the binary form of a request. -/
def put (n : Network) (data : Bytes) : Network :=
  { n with filed := n.filed ++ [data], submissions := n.submissions + 1 }

lemma file_of_encode (h : Codec.encode request = .ok data) : n.file request =
    .ok (if n.rejecting then (none, n) else (some ⟨n.current, data⟩, n.put data)) := by
  rw [file, h, Except.ok_bind]
  by_cases hr : n.rejecting = true
  · rw [if_pos hr, if_pos hr]
    rfl
  · rw [if_neg hr, if_neg hr]
    rfl

lemma file_some_iff : n.file request = .ok (some id, m) ↔ n.rejecting = false ∧
    Codec.encode request = .ok id.data ∧ id.round = n.current ∧ m = n.put id.data := by
  rcases id with ⟨round, data⟩
  cases h : Codec.encode request with
  | error e => simp [file, h]
  | ok x =>
    cases hr : n.rejecting with
    | false => simp [file_of_encode h, hr]; grind
    | true => simp [file_of_encode h, hr]

lemma eq_of_file_none (h : n.file request = .ok (none, m)) : m = n := by
  cases he : Codec.encode request with
  | error e => simp [file, he] at h
  | ok data =>
    rw [file_of_encode he] at h
    cases hr : n.rejecting with
    | false => simp [hr] at h
    | true => exact (by simpa [hr] using h : n = m).symm

lemma isFinalized_iff : n.isFinalized round = true ↔ 1 ≤ round ∧ round < n.current := by
  rw [isFinalized, round?, UInt64.le_iff_toNat_le, UInt64.lt_iff_toNat_lt, toNat_current,
    UInt64.toNat_one]
  split
  · next h => simp [h]
  · next h =>
    have : round.toNat ≠ 0 := fun h0 => h (UInt64.toNat_inj.mp h0)
    rw [Option.isSome_iff_exists]
    simp only [List.getElem?_eq_some_iff]
    grind

lemma isFinalized_current (n : Network) : n.isFinalized n.current = false := by
  rw [Bool.eq_false_iff, Ne, isFinalized_iff]
  exact fun h => UInt64.lt_irrefl _ h.2

lemma toNat_current_finalize (room : n.current.toNat + 1 < UInt64.size) (c : Chain) :
    (n.finalize c).current.toNat = n.current.toNat + 1 := by
  rw [current_finalize room c, UInt64.toNat_add, UInt64.toNat_one, Nat.mod_eq_of_lt room]

lemma finalize_of_full (c : Chain) (h : ¬ n.current.toNat + 1 < UInt64.size) :
    n.finalize c = n := by
  rw [toNat_current] at h
  rw [finalize, dif_neg h]

inductive Change (n : Network) : Network → Prop
  | switch (rejecting withholding : Bool) : Change n { n with rejecting, withholding }
  | file (data : Bytes) : Change n (n.put data)
  | finalize (c : Chain) : Change n (n.finalize c)

/-- A network has the closed rounds of one before it. -/
structure Later (n m : Network) : Prop where
  mode : m.mode = n.mode
  salt : m.salt = n.salt
  round? : ∀ round, n.isFinalized round = true → m.round? round = n.round? round

namespace Later

lemma refl (n : Network) : Later n n :=
  ⟨rfl, rfl, fun _ _ => rfl⟩

lemma isFinalized (h : Later n m) (hr : n.isFinalized round = true) :
    m.isFinalized round = true := by
  rw [Network.isFinalized, h.round? round hr]
  exact hr

lemma trans (h : Later n m) (h' : Later m k) : Later n k where
  mode := h'.mode.trans h.mode
  salt := h'.salt.trans h.salt
  round? round hr := (h'.round? round (h.isFinalized hr)).trans (h.round? round hr)

end Later

def Sound (n : Network) : Prop :=
  ∀ round closed, n.round? round = some closed →
    ∃ c, closed = closeRound n.salt c round closed.filed

namespace Change

lemma refl (n : Network) : Change n n :=
  .switch n.rejecting n.withholding

lemma later (h : Change n m) : Later n m := by
  cases h with
  | switch rejecting withholding => exact ⟨rfl, rfl, fun _ _ => rfl⟩
  | file data => exact ⟨rfl, rfl, fun _ _ => rfl⟩
  | finalize c =>
    by_cases room : n.current.toNat + 1 < UInt64.size
    · refine ⟨?_, ?_, fun round hr => round?_finalize_of_ne room c ?_⟩
      · rw [Network.finalize]; split <;> rfl
      · rw [Network.finalize]; split <;> rfl
      · rintro rfl
        rw [isFinalized_current] at hr
        cases hr
    · rw [finalize_of_full c room]
      exact .refl n

lemma sound (h : Change n m) (hn : Sound n) : Sound m := by
  have hs := h.later.salt
  cases h with
  | switch rejecting withholding => exact hn
  | file data => exact hn
  | finalize c =>
    by_cases room : n.current.toNat + 1 < UInt64.size
    · intro round closed hr
      rw [hs]
      by_cases h : round = n.current
      · subst h
        rw [round?_finalize_current room] at hr
        obtain rfl := Option.some.inj hr
        exact ⟨c, rfl⟩
      · rw [round?_finalize_of_ne room c h] at hr
        exact hn round closed hr
    · rw [finalize_of_full c room]
      exact hn

end Change

lemma sound_start (mode : Mode) (salt : String) : Sound (start mode salt) := by
  intro round closed h
  rw [round?] at h
  split at h <;> cases h

/-- The requests of a round: those over which it was closed, or those that are filed so far. -/
def filedIn (n : Network) (round : UInt64) : List Bytes :=
  if round = n.current then n.filed else ((n.round? round).map (·.filed)).getD []

lemma filedIn_put (n : Network) (data : Bytes) (round : UInt64) : (n.put data).filedIn round =
    if round = n.current then n.filedIn round ++ [data] else n.filedIn round := by
  by_cases h : round = n.current
  · rw [if_pos h, filedIn, filedIn, if_pos h]
    exact if_pos h
  · rw [if_neg h, filedIn, filedIn, if_neg h]
    exact if_neg h

lemma isFinalized_of_mem_filedIn (h : data ∈ n.filedIn round) (hr : round ≠ n.current) :
    n.isFinalized round = true := by
  rw [filedIn, if_neg hr] at h
  rw [isFinalized]
  cases hc : n.round? round with
  | none => rw [hc] at h; cases h
  | some closed => rfl

lemma filedIn_finalize (n : Network) (c : Chain) (round : UInt64) :
    (n.finalize c).filedIn round = n.filedIn round := by
  by_cases room : n.current.toNat + 1 < UInt64.size
  · have hcurrent := toNat_current_finalize room c
    by_cases h : round = n.current
    · subst h
      have hne : n.current ≠ (n.finalize c).current := fun h => by rw [← h] at hcurrent; omega
      rw [filedIn, filedIn, if_neg hne, if_pos rfl, round?_finalize_current room]
      rfl
    by_cases h' : round = (n.finalize c).current
    · -- The new round has no requests, and before it was opened there was no such round.
      have hnone : ¬ n.isFinalized round = true := by
        rw [isFinalized_iff, h', UInt64.lt_iff_toNat_lt]
        omega
      rw [isFinalized, Option.not_isSome_iff_eq_none] at hnone
      rw [filedIn, filedIn, if_pos h', if_neg h, filed_finalize room, hnone]
      rfl
    · rw [filedIn, filedIn, if_neg h', if_neg h, round?_finalize_of_ne room c h]
  · rw [finalize_of_full c room]

lemma submissions_finalize (n : Network) (c : Chain) :
    (n.finalize c).submissions = n.submissions := by
  rw [finalize]
  split <;> rfl

end Attestation.Network
