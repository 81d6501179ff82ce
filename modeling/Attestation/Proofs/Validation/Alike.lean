import Mathlib
import Attestation.Proofs.Codec.Plain
import Attestation.Proofs.Validation.Payment

/-!
Requests that are the same have one response, as long as their hashes are written with all their
bytes in both or in neither (`expectedResponse_of_same`). A hash that is written short is the same
as the hash in full and is encoded like it, but the validator takes it for no hash at all
(`short_id_unanswered`).
-/

namespace Attestation

lemma Hash.length_of_ofBytes? {b : Bytes} {h : Hash} (hb : ofBytes? b = some h) : b.length = 32 :=
  (Option.ite_none_right_eq_some.mp hb).1

lemma Bytes.eq_of_padLeft_eq {width : ℕ} {x y : Bytes} (h : x.padLeft width = y.padLeft width)
    (hx : x.length = width) (hy : y.length = width) : x = y := by
  rwa [padLeft_of_le hx.ge, padLeft_of_le hy.ge] at h

namespace RequestBody

/-- The byte strings by which a request names hashes. -/
def hashes : RequestBody → List Bytes
  | payment f => [f.id]
  | balanceDecreasing f => [f.id]
  | blockHeight _ => []
  | nonexistence f => [f.destinationAddressHash, f.paymentReference]

/-- Numbers have the same values, and hashes the same bytes once they are padded. -/
inductive Alike : RequestBody → RequestBody → Prop
  | payment {f g : PaymentRequest} (id : f.id.padLeft 32 = g.id.padLeft 32)
    (blockNumber : f.blockNumber.value = g.blockNumber.value)
    (inUtxo : f.inUtxo.value = g.inUtxo.value) (utxo : f.utxo.value = g.utxo.value) :
    Alike (.payment f) (.payment g)
  | balanceDecreasing {f g : BalanceDecreasingRequest} (id : f.id.padLeft 32 = g.id.padLeft 32)
    (blockNumber : f.blockNumber.value = g.blockNumber.value)
    (inUtxo : f.inUtxo.value = g.inUtxo.value) : Alike (.balanceDecreasing f) (.balanceDecreasing g)
  | blockHeight {f g : BlockHeightRequest} (blockNumber : f.blockNumber.value = g.blockNumber.value)
    (queryWindow : f.queryWindow.value = g.queryWindow.value) :
    Alike (.blockHeight f) (.blockHeight g)
  | nonexistence {f g : NonexistenceRequest}
    (minimalBlockNumber : f.minimalBlockNumber.value = g.minimalBlockNumber.value)
    (deadlineBlockNumber : f.deadlineBlockNumber.value = g.deadlineBlockNumber.value)
    (deadlineTimestamp : f.deadlineTimestamp.value = g.deadlineTimestamp.value)
    (destinationAddressHash :
      f.destinationAddressHash.padLeft 32 = g.destinationAddressHash.padLeft 32)
    (amount : f.amount.value = g.amount.value)
    (paymentReference : f.paymentReference.padLeft 32 = g.paymentReference.padLeft 32) :
    Alike (.nonexistence f) (.nonexistence g)

end RequestBody

/-- All hashes are written with all their bytes. -/
def Request.Whole (r : Request) : Prop :=
  ∀ b ∈ r.body.hashes, b.length = 32

namespace Codec

variable {a b : Request} {f : RequestField} {i : ℕ} {v w : FieldValue}

lemma settle_eq_of_same (h : same a b = true) (hf : a.kind.scheme.request[i]? = some f)
    (hv : a.values[i]? = some v) (hw : b.values[i]? = some w) :
    v.settle f.width = w.settle f.width := by
  obtain ⟨hk, hs⟩ := same_iff.mp h
  have hfield := hs f (List.mem_of_getElem? hf)
  rw [Request.read?_eq hf, Request.read?_eq (hk ▸ hf), hv, hw] at hfield
  exact Option.some.inj hfield

lemma source_eq_of_same (h : same a b = true) : a.source = b.source :=
  FieldValue.source.inj (settle_eq_of_same h (i := 1) rfl rfl rfl)

lemma value_eq_of_same {m n : Numeral} (h : same a b = true) (i : ℕ)
    (hf : a.kind.scheme.request[i]? = some f) (hm : a.values[i]? = some (.number m))
    (hn : b.values[i]? = some (.number n)) : m.value = n.value := by
  have hs : m.settle = n.settle := FieldValue.number.inj (settle_eq_of_same h hf hm hn)
  rw [← m.value_settle, hs, n.value_settle]

lemma padLeft_eq_of_same {x y : Bytes} (h : same a b = true) (i : ℕ)
    (hf : a.kind.scheme.request[i]? = some f) (hx : a.values[i]? = some (.bytes x))
    (hy : b.values[i]? = some (.bytes y)) : x.padLeft f.width = y.padLeft f.width :=
  FieldValue.bytes.inj (settle_eq_of_same h hf hx hy)

lemma alike_of_same (h : same a b = true) : a.body.Alike b.body := by
  obtain ⟨hk, -⟩ := same_iff.mp h
  rcases a with ⟨s, k, f | f | f | f⟩ <;> rcases b with ⟨t, l, g | g | g | g⟩ <;> cases hk
  · exact .payment (padLeft_eq_of_same h 3 rfl rfl rfl) (value_eq_of_same h 4 rfl rfl rfl)
      (value_eq_of_same h 5 rfl rfl rfl) (value_eq_of_same h 6 rfl rfl rfl)
  · exact .balanceDecreasing (padLeft_eq_of_same h 3 rfl rfl rfl)
      (value_eq_of_same h 4 rfl rfl rfl) (value_eq_of_same h 5 rfl rfl rfl)
  · exact .blockHeight (value_eq_of_same h 3 rfl rfl rfl) (value_eq_of_same h 4 rfl rfl rfl)
  · exact .nonexistence (value_eq_of_same h 3 rfl rfl rfl) (value_eq_of_same h 4 rfl rfl rfl)
      (value_eq_of_same h 5 rfl rfl rfl) (padLeft_eq_of_same h 6 rfl rfl rfl)
      (value_eq_of_same h 7 rfl rfl rfl) (padLeft_eq_of_same h 8 rfl rfl rfl)

end Codec

namespace Request

variable {r d : Request} {f : RequestField} {y : Bytes}

lemma exists_field_of_mem_hashes (hy : y ∈ r.body.hashes) :
    ∃ f, (f, .bytes y) ∈ r.fields ∧ f.width = 32 := by
  rcases r with ⟨s, c, g | g | g | g⟩
  · obtain rfl := List.mem_singleton.mp hy
    exact ⟨_, List.mem_of_getElem? (i := 3) rfl, rfl⟩
  · obtain rfl := List.mem_singleton.mp hy
    exact ⟨_, List.mem_of_getElem? (i := 3) rfl, rfl⟩
  · cases hy
  · rcases List.mem_pair.mp hy with rfl | rfl
    · exact ⟨_, List.mem_of_getElem? (i := 6) rfl, rfl⟩
    · exact ⟨_, List.mem_of_getElem? (i := 8) rfl, rfl⟩

lemma length_of_settled (hr : ∀ p ∈ r.fields, p.2.Fits p.1.width) (h : r.Settled d)
    (hy : (f, .bytes y) ∈ d.fields) : y.length = f.width := by
  obtain ⟨hk, -, -⟩ := h.header_eq
  have hfields : d.fields = (r.fields.zip d.values).map (Prod.map (·.1) id) := by
    rw [fields, hk, ← map_fst_fields, List.zip_map_left]
  rw [hfields] at hy
  obtain ⟨⟨p, v⟩, hp, heq⟩ := List.mem_map.mp hy
  cases heq
  have hs := (List.forall₂_iff_zip.mp h).2 hp
  have hfits := hr p (List.of_mem_zip hp).1
  rcases p with ⟨f, v⟩
  cases hs with
  | bytes b =>
    rw [Bytes.length_padLeft]
    exact max_eq_left hfits

lemma whole_of_decode {b : Bytes} (he : Codec.encode r = .ok b) (hd : Codec.decode b = .ok d) :
    d.Whole := by
  obtain ⟨_, hd', hs, -⟩ := Codec.decode_of_encode he
  cases hd.symm.trans hd'
  have hk : r.kind = r.kind.scheme.kind := rfl
  have hfits : ∀ p ∈ r.fields, p.2.Fits p.1.width := by
    rw [← Codec.exists_encodeFields_iff_fits hk fun p => read?_of_mem_fields, r.map_fst_fields,
      ← Codec.encode_eq]
    exact ⟨b, he⟩
  intro y hy
  obtain ⟨f, hf, hwidth⟩ := exists_field_of_mem_hashes hy
  rw [length_of_settled hfits hs hf, hwidth]

end Request

namespace Validation

variable {c : Chain} {a b : Request} {x y : RequestBody} {m : ResponseBody} {e : Response}

lemma length_of_bind_confirmed? {α : Type} {id : Bytes} {n : Numeral}
    {k : Transaction × Block → Option α} {p : α}
    (h : (confirmed? c id n).bind k = some p) : id.length = 32 := by
  obtain ⟨_, hc, -⟩ := Option.bind_eq_some_iff.mp h
  exact Hash.length_of_ofBytes? (confirmed?_eq_some_iff.mp hc).id

/-- A request whose hashes are not whole is not answered. -/
lemma whole_of_body? (h : body? c x = some m) : ∀ b ∈ x.hashes, b.length = 32 := by
  cases x with
  | payment f =>
    obtain ⟨p, hp, -⟩ := Option.map_eq_some_iff.mp h
    exact List.forall_mem_singleton.mpr (length_of_bind_confirmed? hp)
  | balanceDecreasing f =>
    obtain ⟨p, hp, -⟩ := Option.map_eq_some_iff.mp h
    exact List.forall_mem_singleton.mpr (length_of_bind_confirmed? hp)
  | blockHeight f => exact List.forall_mem_nil _
  | nonexistence f =>
    obtain ⟨p, hp, -⟩ := Option.map_eq_some_iff.mp h
    have habsent := nonexistence?_eq_some_iff.mp hp
    intro b hb
    rcases List.mem_pair.mp hb with rfl | rfl
    · exact Hash.length_of_ofBytes? habsent.destination
    · exact Hash.length_of_ofBytes? habsent.reference

lemma body?_congr (h : x.Alike y) (hx : ∀ b ∈ x.hashes, b.length = 32)
    (hy : ∀ b ∈ y.hashes, b.length = 32) : body? c x = body? c y := by
  cases h with
  | payment id blockNumber inUtxo utxo =>
    have hid := Bytes.eq_of_padLeft_eq id (hx _ List.mem_cons_self) (hy _ List.mem_cons_self)
    rw [body?, body?, payment?, payment?, hid, confirmed?_congr rfl blockNumber,
      index?_congr inUtxo, index?_congr utxo]
  | balanceDecreasing id blockNumber inUtxo =>
    have hid := Bytes.eq_of_padLeft_eq id (hx _ List.mem_cons_self) (hy _ List.mem_cons_self)
    rw [body?, body?, balanceDecreasing?, balanceDecreasing?, hid, confirmed?_congr rfl blockNumber,
      index?_congr inUtxo]
  | blockHeight blockNumber queryWindow =>
    rw [body?, body?, blockHeight?, blockHeight?, uint64?_congr blockNumber,
      uint64?_congr queryWindow]
  | nonexistence minimal last time destination amount reference =>
    have hdestination :=
      Bytes.eq_of_padLeft_eq destination (hx _ List.mem_cons_self) (hy _ List.mem_cons_self)
    have hreference := Bytes.eq_of_padLeft_eq reference
      (hx _ (List.mem_cons_of_mem _ List.mem_cons_self))
      (hy _ (List.mem_cons_of_mem _ List.mem_cons_self))
    rw [body?, body?, nonexistence?, nonexistence?, uint64?_congr minimal, uint64?_congr last,
      uint64?_congr time, Numeral.resolve, amount, ← Numeral.resolve, hdestination, hreference]

lemma expectedResponse_of_not_whole (h : ¬ a.Whole) : expectedResponse c a = none := by
  by_contra hne
  obtain ⟨e, he⟩ := Option.ne_none_iff_exists'.mp hne
  obtain ⟨m, hm, -⟩ := Option.map_eq_some_iff.mp (Option.ite_none_right_eq_some.mp he).2
  exact h (whole_of_body? hm)

lemma expectedResponse_congr (h : Codec.same a b = true) (hw : a.Whole ↔ b.Whole) :
    expectedResponse c a = expectedResponse c b := by
  by_cases ha : a.Whole
  · rw [expectedResponse, Codec.source_eq_of_same h,
      body?_congr (Codec.alike_of_same h) ha (hw.mp ha), expectedResponse]
  · rw [expectedResponse_of_not_whole ha, expectedResponse_of_not_whole (mt hw.mpr ha)]

theorem expectedResponse_of_same (c : Chain) (a : Request) :
    (∀ b, Codec.same a b = true → (a.Whole ↔ b.Whole) →
      expectedResponse c a = expectedResponse c b) ∧
    (¬ a.Whole → expectedResponse c a = none) ∧
    ∀ x, Codec.encode a = .ok x → ∃ d, Codec.decode x = .ok d ∧ d.Whole ∧
      (a.Whole → expectedResponse c a = expectedResponse c d) := by
  refine ⟨fun b => expectedResponse_congr, expectedResponse_of_not_whole, ?_⟩
  intro x he
  obtain ⟨d, hd, -, hs⟩ := Codec.decode_of_encode he
  have hwhole := Request.whole_of_decode he hd
  exact ⟨d, hd, hwhole, fun ha => expectedResponse_congr hs (iff_of_true ha hwhole)⟩

section Carol

/-- The payment to Carol, asked for by a transaction and a block. -/
def askedBy (id : Bytes) (block : Numeral) : Request :=
  .of .xrp (.payment ⟨id, block, .ofNat 0, .ofNat 0⟩)

lemma exists_encode_asked : ∃ x, Codec.encode (.payment .xrp 7 2 0 0) = .ok x ∧
    Codec.decode x = .ok (.payment .xrp 7 2 0 0) :=
  Codec.exists_encode_of_plain Request.plain_payment (by decide)

/-- The block may be written in any form. -/
theorem expectedResponse_of_same_carol : ∃ a x d,
    a = askedBy (Word.toBytes 7) (.text " 0x_2") ∧ a.Whole ∧
      Codec.same a (.payment .xrp 7 2 0 0) = true ∧ Codec.encode a = .ok x ∧
      Codec.decode x = .ok d ∧ d.Whole ∧
      expectedResponse (carolsChain 50) a = some (.pending (.payment fiftyToCarol)) ∧
      expectedResponse (carolsChain 50) d = some (.pending (.payment fiftyToCarol)) ∧
      expectedResponse (carolsChain 50) (askedBy [] (.ofNat 2)) = none := by
  let a := askedBy (Word.toBytes 7) (.text " 0x_2")
  let b := askedBy [] (.ofNat 2)
  obtain ⟨x, hx, -⟩ := exists_encode_asked
  have hs : Codec.same a (.payment .xrp 7 2 0 0) = true := by decide +kernel
  have he : Codec.encode a = .ok x := (Codec.encode_eq_of_same hs).trans hx
  have hwhole {source : Source} {n i j : Numeral} :
      (Request.of source (.payment ⟨Word.toBytes 7, n, i, j⟩)).Whole :=
    List.forall_mem_singleton.mpr (Word.length_toBytes 7)
  obtain ⟨hsame, -, hencoded⟩ := expectedResponse_of_same (carolsChain 50) a
  have hresponse := (hsame _ hs (iff_of_true hwhole hwhole)).trans expectedResponse_toCarol
  obtain ⟨d, hd, hd', hdecoded⟩ := hencoded x he
  obtain ⟨-, hnone, -⟩ := expectedResponse_of_same (carolsChain 50) b
  have hshort : ¬ b.Whole := fun h => absurd (h [] List.mem_cons_self) (by decide)
  exact ⟨a, x, d, rfl, hwhole, hs, he, hd, hd', hresponse, (hdecoded hwhole).symm.trans hresponse,
    hnone hshort⟩

/-- The same transaction named by its last byte is not found. -/
theorem short_id_unanswered : ∃ a x, a = askedBy [7] (.ofNat 2) ∧ (carolsChain 50).Reachable ∧
    Codec.same a (.payment .xrp 7 2 0 0) = true ∧ Codec.encode a = .ok x ∧
      Codec.decode x = .ok (.payment .xrp 7 2 0 0) ∧ expectedResponse (carolsChain 50) a = none ∧
      expectedResponse (carolsChain 50) (.payment .xrp 7 2 0 0) =
        some (.pending (.payment fiftyToCarol)) := by
  let a := askedBy [7] (.ofNat 2)
  obtain ⟨x, hx, hd⟩ := exists_encode_asked
  have hs : Codec.same a (.payment .xrp 7 2 0 0) = true := by decide
  have hshort : ¬ a.Whole := fun h => absurd (h [7] List.mem_cons_self) (by decide)
  exact ⟨a, x, rfl, reachable_carolsChain, hs, (Codec.encode_eq_of_same hs).trans hx, hd,
    expectedResponse_of_not_whole hshort, expectedResponse_toCarol⟩

end Carol

end Validation

end Attestation
