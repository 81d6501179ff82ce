import Mathlib
import Attestation.Bytes

/-!
Main statements: a number is read back from its bytes up to their width (`toNat_ofNat`), bytes are
written again from their number (`ofNat_toNat`), and a number needs no more bytes than a width
exactly when it is below that power of 256 (`needed_le_iff`).
-/

namespace Attestation.Bytes

theorem toNat_ofNat (width n : Nat) : toNat (ofNat width n) = n % 256 ^ width := by
  induction width generalizing n with
  | zero => simp [ofNat, toNat, Nat.mod_one]
  | succ width ih =>
    have hw : 256 ^ (width + 1) = 256 * 256 ^ width := Nat.pow_succ'
    rw [ofNat, toNat_concat, ih, UInt8.toNat_ofNat', hw, Nat.mod_mul]
    omega

theorem toNat_lt (b : Bytes) : toNat b < 256 ^ b.length := by
  induction b using List.reverseRecOn with
  | nil => simp [toNat]
  | append_singleton b x ih =>
    have hx : x.toNat < 256 := x.toNat_lt
    rw [toNat_concat, List.length_append, List.length_singleton, Nat.pow_succ']
    omega

theorem ofNat_toNat (b : Bytes) : ofNat b.length (toNat b) = b := by
  induction b using List.reverseRecOn with
  | nil => rfl
  | append_singleton b x ih =>
    have hx : x.toNat < 256 := x.toNat_lt
    have hd : (256 * toNat b + x.toNat) / 256 = toNat b := by omega
    have hm : UInt8.ofNat (256 * toNat b + x.toNat) = x := by
      apply UInt8.toNat_inj.mp
      rw [UInt8.toNat_ofNat']
      omega
    rw [toNat_concat, List.length_append, List.length_singleton, ofNat, hd, hm, ih]

theorem needed_le_iff (n width : Nat) : needed n ≤ width ↔ n < 256 ^ width := by
  induction width generalizing n with
  | zero =>
    rw [needed]
    split <;> simp_all
  | succ width ih =>
    rw [needed]
    split
    · next h => exact iff_of_true (Nat.zero_le _) (h ▸ Nat.pow_pos (by decide))
    · rw [Nat.add_le_add_iff_right, ih, Nat.pow_succ']
      omega

theorem drop_ofNat (front width n : Nat) : (ofNat (front + width) n).drop front = ofNat width n := by
  induction width generalizing n with
  | zero => simp [ofNat]
  | succ width ih =>
    rw [← Nat.add_assoc, ofNat, List.drop_append_of_le_length (by simp), ih, ofNat]

@[simp] theorem length_padLeft (width : Nat) (b : Bytes) :
    (padLeft width b).length = max width b.length := by
  simp only [padLeft, List.length_append, List.length_replicate]
  omega

theorem padLeft_of_le {width : Nat} {b : Bytes} (h : width ≤ b.length) : padLeft width b = b := by
  simp [padLeft, Nat.sub_eq_zero_of_le h]

end Attestation.Bytes
