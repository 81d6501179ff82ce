import Mathlib
import Attestation.Json.Quantity
import Attestation.Proofs.Hash.Grammar

/-!
Scalars are read back from the JSON that they are written as: integers of 8 and 64 bits as numbers,
bytes and hashes as hexadecimal text, integers of 256 bits in decimal and of 128 bits in hexadecimal
digits.
-/

namespace Attestation

namespace Numeral

theorem digits?_toDigits {base : Nat} (h : 1 < base) (hb : base ≤ 16) (n : Nat) :
    digits? base (Nat.toDigits base n) = some n := by
  induction n using Nat.strong_induction_on with
  | _ n ih =>
    rw [Nat.toDigits_eq_if h]
    split
    · next hn =>
      have hdigit : IsDigit n.digitChar n := ⟨hn.trans_le hb, .inl rfl⟩
      have hdigits := Digits.digit .nil hdigit hn
      rw [Nat.mul_zero, Nat.zero_add] at hdigits
      exact digits?_eq_some_iff.mpr hdigits
    · next hn =>
      have hlt : n / base < n := Nat.div_lt_self (by omega) h
      have hmod : n % base < base := Nat.mod_lt n (by omega)
      have hdigit : IsDigit (n % base).digitChar (n % base) := ⟨hmod.trans_le hb, .inl rfl⟩
      have hdigits := (digits?_eq_some_iff.mp (ih _ hlt)).digit hdigit hmod
      rw [Nat.div_add_mod] at hdigits
      exact digits?_eq_some_iff.mpr hdigits

end Numeral

namespace Hex

lemma value?_digit {n : Nat} (h : n < 16) : value? (digit n) = some n := by
  have hall : ∀ n < 16, value? (digit n) = some n := by decide
  exact hall n h

lemma forall₂_flatMap_ofByte (b : Bytes) :
    List.Forall₂ Numeral.IsDigit (b.flatMap ofByte) (b.flatMap halves) := by
  induction b with
  | nil => exact .nil
  | cons x b ih =>
    have hx : x.toNat < 256 := x.toNat_lt
    have hhigh := value?_digit (show x.toNat / 16 < 16 by omega)
    have hlow := value?_digit (show x.toNat % 16 < 16 by omega)
    exact .cons (Numeral.isDigit_of_value? hhigh) (.cons (Numeral.isDigit_of_value? hlow) ih)

theorem decode?_encode (b : Bytes) : decode? (encode b) = some b := by
  rw [decode?, encode, String.toList_ofList, body]
  exact pairs?_eq_some_iff.mpr (forall₂_flatMap_ofByte b)

end Hex

theorem Hash.ofText?_toText (h : Hash) : ofText? h.toText = some h := by
  rw [ofText?, toText, Hex.decode?_encode, Option.bind_some, Hash.ofBytes?_toBytes]

namespace Json

namespace Quantity

variable {cs : List Char}

lemma radix_of_isDigit (h : ∀ c ∈ cs, c.isDigit = true) : radix cs = (10, cs) := by
  unfold radix
  split <;> first | rfl | exact absurd (h _ (List.mem_cons_of_mem _ List.mem_cons_self)) (by decide)

lemma isDigit_of_mem (n : Nat) : ∀ c ∈ Nat.toDigits 10 n, c.isDigit = true := by
  intro c hc
  exact Nat.isDigit_of_mem_toDigits (by decide) le_rfl hc

lemma magnitude?_toDigits (n : Nat) : magnitude? (Nat.toDigits 10 n) = some n := by
  rw [magnitude?, radix_of_isDigit (isDigit_of_mem n)]
  exact Numeral.digits?_toDigits (by decide) (by decide) n

lemma integer?_of_isDigit (h : ∀ c ∈ cs, c.isDigit = true) :
    integer? cs = (magnitude? cs).map Int.ofNat := by
  unfold integer?
  split
  · exact absurd (h _ List.mem_cons_self) (by decide)
  · exact absurd (h _ List.mem_cons_self) (by decide)
  · cases magnitude? cs <;> rfl

lemma integer?_neg (cs : List Char) :
    integer? ('-' :: cs) = (magnitude? cs).map fun n => -Int.ofNat n := by
  rw [integer?]
  cases magnitude? cs <;> rfl

theorem integer?_toString (i : Int) : integer? (toString i).toList = some i := by
  change integer? i.repr.toList = some i
  rw [Int.repr_eq_if]
  split
  · next hi =>
    rw [Nat.repr_eq_ofList_toDigits, String.toList_ofList,
      integer?_of_isDigit (isDigit_of_mem i.toNat), magnitude?_toDigits, Option.map_some,
      Int.ofNat_eq_natCast, Int.toNat_of_nonneg hi]
  · next hi =>
    have hs : ("-" ++ (-i).toNat.repr).toList = '-' :: Nat.toDigits 10 (-i).toNat := by
      simp [Nat.repr_eq_ofList_toDigits]
    rw [hs, integer?_neg, magnitude?_toDigits, Option.map_some, Int.ofNat_eq_natCast,
      Int.toNat_of_nonneg (by omega), neg_neg]

end Quantity

@[simp] lemma uint8?_nat (n : UInt8) : (nat n.toNat).uint8? = some n := by
  rw [uint8?, nat, nat?, if_pos n.toNat_lt, Option.map_some, UInt8.ofNat_toNat]

@[simp] lemma uint64?_nat (n : UInt64) : (nat n.toNat).uint64? = some n := by
  rw [uint64?, nat, nat?, if_pos n.toNat_lt, Option.map_some, UInt64.ofNat_toNat]

@[simp] lemma bool?_bool (b : Bool) : (bool b).bool? = some b :=
  rfl

@[simp] lemma hash?_hash (h : Hash) : (hash h).hash? = some h :=
  Hash.ofText?_toText h

@[simp] lemma bytes?_bytes (b : Bytes) : (bytes b).bytes? = some b :=
  Hex.decode?_encode b

@[simp] lemma int256?_int256 (w : Word) : (int256 w).int256? = some w := by
  have hmin : (BitVec.intMin 256).toInt = -2 ^ 255 := by decide
  have hmax : (BitVec.intMax 256).toInt = 2 ^ 255 - 1 := by decide
  have hlo : -2 ^ 255 ≤ w.toInt := BitVec.le_toInt w
  have hhi : w.toInt < 2 ^ 255 := BitVec.toInt_lt
  rw [int256, int256?, Quantity.integer?_toString]
  simp only
  rw [if_pos (by omega), BitVec.ofInt_toInt]

@[simp] lemma uint128?_uint128 (n : BitVec 128) : (uint128 n).uint128? = some n := by
  have hn : n.toNat < 1 <<< 128 := n.isLt
  have hr : Quantity.magnitude? ('0' :: 'x' :: Nat.toDigits 16 n.toNat) = some n.toNat :=
    Numeral.digits?_toDigits (show 1 < 16 by decide) le_rfl n.toNat
  rw [uint128, uint128?, String.toList_ofList, hr]
  simp only
  rw [if_pos hn, BitVec.ofNat_toNat, BitVec.setWidth_eq]

lemma option?_option {α : Type} {f : α → Json} {g : Json → Option α}
    (h : ∀ a, g (f a) = some a) (hf : ∀ a, f a ≠ null) (o : Option α) :
    option? g (option f o) = some o := by
  cases o with
  | none => rfl
  | some a =>
    rw [option, option?.eq_def]
    split
    · next hn => exact absurd hn (hf a)
    · rw [h, Option.map_some]

lemma list?_array {α : Type} {f : α → Json} {g : Json → Option α} (h : ∀ a, g (f a) = some a)
    (xs : List α) : list? g (array (xs.map f)) = some xs := by
  rw [list?, List.mapM_map]
  have : g ∘ f = fun a => pure a := funext h
  rw [this, List.mapM_pure, List.map_id']
  rfl

end Json

lemma Kind.ofName?_name (k : Kind) : ofName? k.name = some k := by
  cases k <;> decide

end Attestation
