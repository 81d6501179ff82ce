import Mathlib
import Attestation.Network
import Attestation.Proofs.Finding
import Attestation.Proofs.Merkle.Inclusion

/-!
Main statement: closing the current round answers exactly those of its requests that the ledger
supports, each with a proof under the root of the round, opens the next round, as long as there is a
number for it, and leaves the others as they are.
-/

namespace Attestation

namespace Validation

variable {c : Chain} {request : Request} {e : Response}

lemma kind_of_body? {r : RequestBody} {b : ResponseBody} (h : body? c r = some b) :
    b.kind = r.kind := by
  cases r <;> obtain ⟨_, -, rfl⟩ := Option.map_eq_some_iff.mp h <;> rfl

lemma kind_of_expectedResponse (h : expectedResponse c request = some e) :
    e.kind = request.kind := by
  obtain ⟨-, h⟩ := Option.ite_none_right_eq_some.mp h
  obtain ⟨b, hb, rfl⟩ := Option.map_eq_some_iff.mp h
  exact kind_of_body? hb

end Validation

lemma Finding.of?_withRound {request : Request} {e : Response} (round : UInt64)
    (hk : e.kind = request.kind) :
    of? request (e.withRound round) = some ⟨request.source, round, e.body⟩ :=
  if_pos hk

namespace Network

/-- A binary form is that of a request to which the ledger has a response, and the request
anticipates no other one. -/
structure Supported (salt : String) (c : Chain) (data : Bytes) (request : Request) (e : Response) :
    Prop where
  decoded : Codec.decode data = .ok request
  expected : expectedResponse c request = some e
  anticipated : request.integrityCode = Hash.zero ∨
    integrityCode request e salt = .ok request.integrityCode

variable {n : Network} {c : Chain} {salt : String} {round : UInt64} {data : Bytes}
  {request : Request} {e response : Response}

lemma integrityHolds_iff : integrityHolds salt request e = true ↔
    request.integrityCode = Hash.zero ∨
      integrityCode request e salt = .ok request.integrityCode := by
  rw [integrityHolds, Bool.or_eq_true, beq_iff_eq]
  cases integrityCode request e salt <;> simp

lemma hash?_responseHash (round : UInt64) (hk : e.kind = request.kind) :
    (responseHash request (e.withRound round) none).toOption.bind ResponseHash.hash? =
      some (Finding.leaf ⟨request.source, round, e.body⟩) := by
  have hf := Finding.of?_withRound round hk
  rw [Finding.responseHash_eq_complete_iff.mpr ⟨_, hf, rfl⟩]
  rfl

lemma validate_of_supported (round : UInt64) (h : Supported salt c data request e) :
    validate salt c round data =
      some (e.withRound round, Finding.leaf ⟨request.source, round, e.body⟩) := by
  have hd := Except.toOption_eq_some_iff.mpr h.decoded
  have hl := hash?_responseHash round (Validation.kind_of_expectedResponse h.expected)
  simp only [validate, hd, h.expected, integrityHolds_iff.mpr h.anticipated, hl,
    Option.bind_eq_bind, Option.bind_some, guard_true, Option.pure_def]

lemma supported_of_validate {x : Response × Hash} (h : validate salt c round data = some x) :
    ∃ request e, Supported salt c data request e := by
  simp only [validate, Option.bind_eq_bind] at h
  obtain ⟨request, hd, h⟩ := Option.bind_eq_some_iff.mp h
  obtain ⟨e, he, h⟩ := Option.bind_eq_some_iff.mp h
  obtain ⟨_, hi, -⟩ := Option.bind_eq_some_iff.mp h
  refine ⟨request, e, Except.toOption_eq_some_iff.mp hd, he, integrityHolds_iff.mp ?_⟩
  by_contra hn
  simp [guard, hn] at hi

lemma lookup_answers {α β : Type} (answer : Bytes → Option α) (finish : α → β)
    (filed : List Bytes) (data : Bytes) :
    ((filed.filterMap fun d => (answer d).map (d, ·)).map
      fun x => (x.1, finish x.2)).lookup data =
      if data ∈ filed then (answer data).map finish else none := by
  induction filed with
  | nil => rfl
  | cons d filed ih =>
    cases ha : answer d with
    | none =>
      rw [List.filterMap_cons_none (by rw [ha]; rfl), ih]
      by_cases hd : data = d
      · simp [hd, ha]
      · simp [hd]
    | some a =>
      rw [List.filterMap_cons_some (by rw [ha]; rfl), List.map_cons, List.lookup_cons]
      by_cases hd : data = d
      · simp [hd, ha]
      · simp [hd, ih, beq_eq_false_iff_ne.mpr hd]

def roundTree (salt : String) (c : Chain) (round : UInt64) (filed : List Bytes) : Merkle.Tree :=
  .build (filed.filterMap fun data => (validate salt c round data).map (·.2))

lemma tree_closeRound (salt : String) (c : Chain) (round : UInt64) (filed : List Bytes) :
    Merkle.Tree.build ((filed.filterMap fun data =>
      (validate salt c round data).map (data, ·)).map (·.2.2)) = roundTree salt c round filed := by
  simp only [roundTree, List.map_filterMap, Option.map_map]
  rfl

variable {filed : List Bytes}

lemma root_closeRound :
    (closeRound salt c round filed).root = (roundTree salt c round filed).root? :=
  congrArg Merkle.Tree.root? (tree_closeRound salt c round filed)

def proven (t : Merkle.Tree) (x : Response × Hash) : Response :=
  x.1.withProof ((t.proofOf? x.2).getD [])

lemma response?_closeRound : (closeRound salt c round filed).response? data =
    if data ∈ filed then
      (validate salt c round data).map (proven (roundTree salt c round filed))
    else none := by
  rw [← tree_closeRound]
  exact lookup_answers (validate salt c round) (proven _) filed data

lemma response?_closeRound_of_not_mem (h : data ∉ filed) :
    (closeRound salt c round filed).response? data = none := by
  rw [response?_closeRound, if_neg h]

lemma supported_of_response? (h : (closeRound salt c round filed).response? data = some response) :
    data ∈ filed ∧ ∃ request e, Supported salt c data request e := by
  rw [response?_closeRound] at h
  obtain ⟨hm, h⟩ := Option.ite_none_right_eq_some.mp h
  obtain ⟨x, hx, -⟩ := Option.map_eq_some_iff.mp h
  exact ⟨hm, supported_of_validate hx⟩

lemma response?_of_supported (round : UInt64) (hd : data ∈ filed)
    (h : Supported salt c data request e) : ∃ proof root,
      (closeRound salt c round filed).response? data =
        some ((e.withRound round).withProof proof) ∧
      (closeRound salt c round filed).root = some root ∧
      verifyAttestation request ((e.withRound round).withProof proof) root = .ok true := by
  have hv := validate_of_supported round h
  have hk := Validation.kind_of_expectedResponse h.expected
  have hleaf : Finding.leaf ⟨request.source, round, e.body⟩ ∈
      (roundTree salt c round filed).leaves := by
    rw [roundTree, Merkle.Tree.leaves_build, Merkle.mem_sorted, List.mem_filterMap]
    exact ⟨data, hd, by rw [hv]; rfl⟩
  -- As the leaf lies in the tree, it has a proof, and that proof leads to the root.
  obtain ⟨proof, hp⟩ := Merkle.Tree.exists_proofOf? hleaf
  have hr := Merkle.Tree.climb_proofOf? (Merkle.Tree.joined_build _) hp
  refine ⟨proof, _, ?_, root_closeRound.trans hr, ?_⟩
  · rw [response?_closeRound, if_pos hd, hv, Option.map_some, proven, hp, Option.getD_some]
  · exact Finding.verifyAttestation_eq_true_iff.mpr
      ⟨_, proof, Finding.of?_withRound round hk, rfl, beq_self_eq_true _⟩

lemma isSome_response?_closeRound (hd : data ∈ filed) :
    ((closeRound salt c round filed).response? data).isSome ↔
      ∃ request e, Supported salt c data request e := by
  constructor
  · intro hs
    obtain ⟨response, hr⟩ := Option.isSome_iff_exists.mp hs
    exact (supported_of_response? hr).2
  · rintro ⟨request, e, hs⟩
    obtain ⟨proof, root, hr, -⟩ := response?_of_supported round hd hs
    exact Option.isSome_iff_exists.mpr ⟨_, hr⟩

lemma proven_of_response? (hr : (closeRound salt c round filed).response? data = some response) :
    ∃ request e proof root, Supported salt c data request e ∧
      response = (e.withRound round).withProof proof ∧
      (closeRound salt c round filed).root = some root ∧
      verifyAttestation request response root = .ok true := by
  obtain ⟨hd, request, e, hs⟩ := supported_of_response? hr
  obtain ⟨proof, root, hp, hroot, hv⟩ := response?_of_supported round hd hs
  cases hr.symm.trans hp
  exact ⟨request, e, proof, root, hs, rfl, hroot, hv⟩

lemma isSome_root_closeRound : (closeRound salt c round filed).root.isSome ↔
    ∃ data ∈ filed, ((closeRound salt c round filed).response? data).isSome := by
  have hr : (closeRound salt c round filed).root.isSome ↔
      (filed.filterMap fun data => (validate salt c round data).map (·.2)) ≠ [] := by
    rw [root_closeRound, Option.isSome_iff_ne_none, Ne, roundTree, Merkle.Tree.root?_eq_none_iff]
  rw [hr, Ne, List.filterMap_eq_nil_iff]
  simp only [Option.map_eq_none_iff, not_forall, ← ne_eq, ← Option.isSome_iff_ne_none]
  refine exists_congr fun data => ?_
  constructor
  · rintro ⟨hd, hv⟩
    exact ⟨hd, by rwa [response?_closeRound, if_pos hd, Option.isSome_map]⟩
  · rintro ⟨hd, hv⟩
    rw [response?_closeRound, if_pos hd, Option.isSome_map] at hv
    exact ⟨hd, hv⟩

lemma toNat_current (n : Network) : n.current.toNat = n.closed.length + 1 :=
  UInt64.toNat_ofNat_of_lt' n.closed_lt

section Finalize

variable (room : n.current.toNat + 1 < UInt64.size)
include room

lemma closed_finalize (c : Chain) :
    (n.finalize c).closed = n.closed ++ [closeRound n.salt c n.current n.filed] := by
  rw [toNat_current] at room
  rw [finalize, dif_pos room]

lemma filed_finalize (c : Chain) : (n.finalize c).filed = [] := by
  rw [toNat_current] at room
  rw [finalize, dif_pos room]

lemma current_finalize (c : Chain) : (n.finalize c).current = n.current + 1 := by
  rw [current, closed_finalize room c, current, List.length_append, List.length_singleton]
  exact UInt64.ofNat_add _ 1

lemma round?_finalize_current (c : Chain) :
    (n.finalize c).round? n.current = some (closeRound n.salt c n.current n.filed) := by
  have hn := n.toNat_current
  have h0 : n.current ≠ 0 := fun h => by rw [h] at hn; cases hn
  rw [round?, if_neg h0, closed_finalize room c, hn, Nat.add_sub_cancel]
  simp

lemma round?_finalize_of_ne {r : UInt64} (c : Chain) (hr : r ≠ n.current) :
    (n.finalize c).round? r = n.round? r := by
  have hn := n.toNat_current
  have hne : r.toNat ≠ n.current.toNat := fun h => hr (UInt64.toNat_inj.mp h)
  rw [round?, round?, closed_finalize room c]
  by_cases h0 : r = 0
  · rw [if_pos h0, if_pos h0]
  · have h1 : r.toNat ≠ 0 := fun h => h0 (UInt64.toNat_inj.mp h)
    rw [if_neg h0, if_neg h0, List.getElem?_append]
    split
    · rfl
    · rw [List.getElem?_eq_none (by simp; omega), List.getElem?_eq_none (by omega)]

end Finalize

theorem finalize_answers (n : Network) (c : Chain) (room : n.current.toNat + 1 < UInt64.size) :
    (∀ data ∈ n.filed, ((n.finalize c).response? n.current data).isSome ↔
      ∃ request e, Supported n.salt c data request e) ∧
    (∀ data response, (n.finalize c).response? n.current data = some response →
      ∃ request e proof root, Supported n.salt c data request e ∧
        response = (e.withRound n.current).withProof proof ∧
        (n.finalize c).root? n.current = some root ∧
        verifyAttestation request response root = .ok true) ∧
    (((n.finalize c).root? n.current).isSome ↔
      ∃ data ∈ n.filed, ((n.finalize c).response? n.current data).isSome) ∧
    (∀ data, data ∉ n.filed → (n.finalize c).response? n.current data = none) ∧
    (n.finalize c).current = n.current + 1 ∧
    (∀ round, round ≠ n.current → (n.finalize c).round? round = n.round? round) ∧
    ((n.finalize c).round? n.current).map (·.filed) = some n.filed ∧
    (n.finalize c).filed = [] := by
  simp only [response?, root?, round?_finalize_current room c, Option.bind_some]
  exact ⟨fun data => isSome_response?_closeRound, fun data response => proven_of_response?,
    isSome_root_closeRound, fun data => response?_closeRound_of_not_mem, current_finalize room c,
    fun round => round?_finalize_of_ne room c, rfl, filed_finalize room c⟩

theorem finalize_answers_height : ∃ (n : Network) (c : Chain) (data : Bytes),
    n = { start .manual standardSalt with filed := [data, [0], data] } ∧
      c = (Chain.start .btc 2 10).mineEmpty 10 ∧
      Codec.decode data = .ok (.blockHeight .btc 5 20) ∧ n.current.toNat + 1 < UInt64.size ∧
      ((n.finalize c).response? n.current data).isSome ∧
      ((n.finalize c).root? n.current).isSome ∧
      (n.finalize c).response? n.current [1] = none ∧ (n.finalize c).current = 2 := by
  let data : Bytes :=
    [0, 3, 0, 0, 0, 0] ++ List.replicate 32 0 ++ [0, 0, 0, 5, 0, 0, 0, 20]
  let n : Network := { start .manual standardSalt with filed := [data, [0], data] }
  let c : Chain := (Chain.start .btc 2 10).mineEmpty 10
  have hs : Supported n.salt c data (.blockHeight .btc 5 20)
      (.pending (.blockHeight ⟨5, 1700000050, 2, 10000, 3, 1700000030⟩)) :=
    ⟨rfl, by decide, .inl rfl⟩
  have room : n.current.toNat + 1 < UInt64.size := by decide
  have hd : data ∈ n.filed := List.mem_cons_self
  have hn : [1] ∉ n.filed := by decide
  obtain ⟨ha, -, hr, ho, hc, -⟩ := finalize_answers n c room
  have hdata := (ha data hd).mpr ⟨_, _, hs⟩
  exact ⟨n, c, data, rfl, rfl, hs.decoded, room, hdata, hr.mpr ⟨data, hd, hdata⟩, ho [1] hn, hc⟩

end Network

end Attestation
