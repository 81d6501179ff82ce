import Mathlib
import Attestation.Bytes.Lemmas
import Attestation.Hash

/-!
A word is read back from its bytes (`ofBytes_toBytes`), and 32 bytes from their word
(`toBytes_ofBytes`).
-/

namespace Attestation

namespace Word

theorem ofBytes_toBytes (w : Word) : ofBytes (toBytes w) = w := by
  apply BitVec.eq_of_toNat_eq
  simpa [ofBytes, toBytes, Bytes.toNat_ofNat] using w.isLt

theorem toNat_ofBytes {b : Bytes} (h : b.length = 32) : (ofBytes b).toNat = Bytes.toNat b := by
  have hb : Bytes.toNat b < 2 ^ 256 := by
    have ht := Bytes.toNat_lt b
    norm_num [h] at ht ⊢
    exact ht
  rw [ofBytes, BitVec.toNat_ofNat, Nat.mod_eq_of_lt hb]

theorem toBytes_ofBytes {b : Bytes} (h : b.length = 32) : toBytes (ofBytes b) = b := by
  rw [toBytes, toNat_ofBytes h, ← h, Bytes.ofNat_toNat]

theorem toBytes_inj {v w : Word} : toBytes v = toBytes w ↔ v = w :=
  ⟨fun h => by rw [← ofBytes_toBytes v, h, ofBytes_toBytes], fun h => h ▸ rfl⟩

end Word

theorem Hash.ofBytes?_toBytes (h : Hash) : ofBytes? (Word.toBytes h) = some h := by
  rw [ofBytes?, if_pos (Word.length_toBytes h), Word.ofBytes_toBytes]

end Attestation
