import Mathlib
import Attestation.Proofs.Merkle.Heap
import Attestation.Proofs.Network.RoundBinding

/-!
How requests come to a round. Main statement: what a closed round answers depends on which requests
are filed in it, and neither on their order nor on how often they are filed.
-/

namespace Attestation

namespace Network

variable {n m : Network} {salt : String} {c : Chain} {round : UInt64} {filed filed' : List Bytes}

section Same

variable (h : ∀ data, data ∈ filed ↔ data ∈ filed')
include h

lemma roundTree_congr : roundTree salt c round filed = roundTree salt c round filed' := by
  apply Merkle.Tree.build_congr
  simp only [List.mem_filterMap, h, implies_true]

lemma root_closeRound_congr :
    (closeRound salt c round filed).root = (closeRound salt c round filed').root := by
  rw [root_closeRound, root_closeRound, roundTree_congr h]

-- Requests may share a leaf, and a request its proof: the tree is the same one for all of them.
lemma response?_closeRound_congr (data : Bytes) :
    (closeRound salt c round filed).response? data =
      (closeRound salt c round filed').response? data := by
  rw [response?_closeRound, response?_closeRound, roundTree_congr h]
  simp only [h]

end Same

theorem finalize_forgets_arrival (hs : m.salt = n.salt) (hr : m.current = n.current)
    (hf : ∀ data, data ∈ m.filed ↔ data ∈ n.filed) (c : Chain) :
    (m.finalize c).root? n.current = (n.finalize c).root? n.current ∧
      ∀ data,
        (m.finalize c).response? n.current data = (n.finalize c).response? n.current data := by
  by_cases room : n.current.toNat + 1 < UInt64.size
  · have hn := round?_finalize_current room c
    have hm := round?_finalize_current (hr ▸ room) c
    rw [hr, hs] at hm
    simp only [root?, response?, hn, hm, Option.bind_some]
    exact ⟨root_closeRound_congr hf, response?_closeRound_congr hf⟩
  · -- Neither of the two closes a round for which there is no next one.
    have hn := Option.not_isSome_iff_eq_none.mp (Bool.eq_false_iff.mp n.isFinalized_current)
    have hm := Option.not_isSome_iff_eq_none.mp (Bool.eq_false_iff.mp m.isFinalized_current)
    rw [hr] at hm
    rw [finalize_of_full c room, finalize_of_full c (hr ▸ room)]
    simp only [root?, response?, hn, hm, Option.bind_none, implies_true, and_self]

/-- A request comes once more, and first. -/
theorem finalize_forgets_arrival_height : ∃ n m : Network,
    n.filed = [heightBytes 5, heightBytes 6] ∧
      m.filed = [heightBytes 6, heightBytes 5, heightBytes 6] ∧ m.salt = n.salt ∧
      m.current = n.current ∧ (∀ data, data ∈ m.filed ↔ data ∈ n.filed) ∧
      (m.finalize tenBlocks).root? 1 = (n.finalize tenBlocks).root? 1 ∧
      (m.finalize tenBlocks).response? 1 (heightBytes 5) =
        some (((Response.pending five).withRound 1).withProof [(Finding.mk .btc 1 six).leaf]) := by
  let n : Network := ((start .manual standardSalt).put (heightBytes 5)).put (heightBytes 6)
  let m : Network := { n with filed := [heightBytes 6, heightBytes 5, heightBytes 6] }
  have hf : ∀ data, data ∈ m.filed ↔ data ∈ n.filed := by
    intro data
    change data ∈ [_, _, _] ↔ data ∈ [_, _]
    simp only [List.mem_cons, List.not_mem_nil, or_false]
    tauto
  obtain ⟨hroot, hresponse⟩ := finalize_forgets_arrival (m := m) (n := n) rfl rfl hf tenBlocks
  have h : fiveTwice.response? 1 (heightBytes 5) = (n.finalize tenBlocks).response? 1 _ := rfl
  refine ⟨n, m, rfl, rfl, rfl, rfl, hf, hroot, (hresponse _).trans (h.symm.trans ?_)⟩
  exact response?_of_obtain obtain_fiveTwice rfl

end Network

end Attestation
