import Mathlib
import Attestation.Proofs.Environment.Proved
import Attestation.Proofs.Merkle.Binding
import Attestation.Proofs.Network.Filing

/-!
What lies under the root of a closed round: the findings of that round, and no others
(`root_closeRound_findings`). Main statement: a response that is proven in one round is not under
the root of another one, since its preimage names the round.
-/

namespace Attestation

open Merkle (CollisionFree)

variable {f : Finding} {request : Request} {response : Response} {data : Bytes}

namespace Finding

lemma round_of_of? (h : of? request response = some f) : response.round = some f.round := by
  rw [of?] at h
  obtain ⟨-, h⟩ := Option.ite_none_right_eq_some.mp h
  obtain ⟨round, hr, rfl⟩ := Option.map_eq_some_iff.mp h
  exact hr

lemma of?_eq_some {round : UInt64} (hk : response.kind = request.kind)
    (hr : response.round = some round) :
    of? request response = some ⟨request.source, round, response.body⟩ := by
  rw [of?, if_pos hk, hr]
  rfl

lemma verifyAttestation_eq_false {root : Hash} (h : of? request response = some f)
    (hv : verifyAttestation request response root ≠ .ok true) :
    verifyAttestation request response root = .ok false := by
  have hh := responseHash_eq_complete_iff.mpr ⟨f, h, rfl⟩
  rw [verifyAttestation, hh] at hv ⊢
  cases hp : response.proof with
  | none => rfl
  | some proof =>
    cases hm : Merkle.verify f.leaf proof root with
    | false => simp [hm, pure, Except.pure]
    | true => simp [hp, hm, pure, Except.pure] at hv

end Finding

/-- What the requests of a closed round were found to say. -/
def ClosedRound.findings (closed : ClosedRound) : List Finding :=
  closed.responses.filterMap fun x => (Codec.decode x.1).toOption.bind (Finding.of? · x.2)

namespace Network

def findings (n : Network) (round : UInt64) : List Finding :=
  ((n.round? round).map ClosedRound.findings).getD []

variable {n : Network} {c : Chain} {salt : String} {round other : UInt64} {filed : List Bytes}
  {e : Response} {root : Hash} {proof : List Hash} {x : Response × Hash}

lemma finding_of_validate (h : validate salt c round data = some x) : ∃ f : Finding,
    (Codec.decode data).toOption.bind (Finding.of? · x.1) = some f ∧ f.leaf = x.2 := by
  obtain ⟨request, e, hs⟩ := supported_of_validate h
  cases (validate_of_supported round hs).symm.trans h
  have hk := Validation.kind_of_expectedResponse hs.expected
  refine ⟨⟨request.source, round, e.body⟩, ?_, rfl⟩
  rw [hs.decoded]
  exact Finding.of?_withRound round hk

lemma findings_closeRound : (closeRound salt c round filed).findings = filed.filterMap fun data =>
    (validate salt c round data).bind fun x =>
      (Codec.decode data).toOption.bind (Finding.of? · x.1) := by
  rw [ClosedRound.findings, closeRound]
  simp only [List.filterMap_map, List.filterMap_filterMap]
  refine List.filterMap_congr fun data _ => ?_
  cases validate salt c round data <;> rfl

lemma root_closeRound_findings : (closeRound salt c round filed).root =
    (Merkle.Tree.build ((closeRound salt c round filed).findings.map Finding.leaf)).root? := by
  rw [root_closeRound, roundTree, findings_closeRound, List.map_filterMap]
  congr 2
  refine List.filterMap_congr fun data _ => ?_
  cases hv : validate salt c round data with
  | none => rfl
  | some x =>
    obtain ⟨f, hf, hleaf⟩ := finding_of_validate hv
    simp [hf, hleaf]

lemma round_of_mem_findings (h : f ∈ (closeRound salt c round filed).findings) :
    f.round = round := by
  rw [findings_closeRound, List.mem_filterMap] at h
  obtain ⟨data, -, h⟩ := h
  obtain ⟨x, hx, h⟩ := Option.bind_eq_some_iff.mp h
  obtain ⟨request, -, hf⟩ := Option.bind_eq_some_iff.mp h
  obtain ⟨_, e, hs⟩ := supported_of_validate hx
  cases (validate_of_supported round hs).symm.trans hx
  exact (Option.some.inj (Finding.round_of_of? hf)).symm

lemma mem_findings_of_response?
    (hr : (closeRound salt c round filed).response? data = some response)
    (hd : Codec.decode data = .ok request) : response.kind = request.kind ∧
      response.round = some round ∧
      ⟨request.source, round, response.body⟩ ∈ (closeRound salt c round filed).findings := by
  obtain ⟨hm, -⟩ := supported_of_response? hr
  obtain ⟨read, e, proof, -, hs, rfl, -, -⟩ := proven_of_response? hr
  obtain rfl := Except.ok.inj (hd.symm.trans hs.decoded)
  have hk := Validation.kind_of_expectedResponse hs.expected
  refine ⟨hk, rfl, ?_⟩
  rw [findings_closeRound, List.mem_filterMap]
  refine ⟨data, hm, ?_⟩
  rw [validate_of_supported round hs, hd]
  exact Finding.of?_withRound round hk

lemma Sound.root?_findings (hn : n.Sound) (hr : n.root? round = some root) :
    (Merkle.Tree.build ((n.findings round).map Finding.leaf)).root? = some root ∧
      ∀ f ∈ n.findings round, f.round = round := by
  obtain ⟨closed, hc, hr⟩ := Option.bind_eq_some_iff.mp hr
  obtain ⟨c, hclosed⟩ := hn round closed hc
  rw [hclosed] at hc hr
  rw [findings, hc, Option.map_some, Option.getD_some]
  exact ⟨root_closeRound_findings ▸ hr, fun f => round_of_mem_findings⟩

lemma Sound.mem_findings (hn : n.Sound) (he : Codec.encode request = .ok data)
    (hr : n.response? round data = some response) : response.kind = request.kind ∧
      response.round = some round ∧ ⟨request.source, round, response.body⟩ ∈ n.findings round := by
  obtain ⟨closed, hc, hr⟩ := Option.bind_eq_some_iff.mp hr
  obtain ⟨c, hclosed⟩ := hn round closed hc
  rw [hclosed] at hc hr
  obtain ⟨d, hd, hsettled, -⟩ := Codec.decode_of_encode he
  obtain ⟨hk, ht, -⟩ := hsettled.header_eq
  rw [findings, hc, Option.map_some, Option.getD_some, ← hk, ← ht]
  exact mem_findings_of_response? hr hd

lemma response?_of_obtain (h : n.obtain round data = ⟨true, some response⟩)
    (hp : response.proof = some proof) : n.response? round data = some response := by
  have ho : Flow.outcome (.blank .payment) ⟨round, data⟩ (n.obtain round data) =
      .proved ⟨⟨round, data⟩, .blank .payment, response⟩ := by
    rw [h, Flow.outcome]
    simp [Response.hasProof, hp]
  obtain ⟨-, -, hr⟩ := proved_of_obtain ho
  exact hr

/-- The proof of a finding that is not among those under a root does not lead to it. -/
lemma verifyAttestation_of_not_mem {fs : List Finding}
    (hroot : (Merkle.Tree.build (fs.map Finding.leaf)).root? = some root)
    (hf : Finding.of? request response = some f) (hmem : f ∉ fs)
    (hp : response.proof = some proof)
    (free : CollisionFree (Merkle.Tree.strings (fs.map Finding.preimage) f.preimage proof)) :
    verifyAttestation request response root = .ok false := by
  apply Finding.verifyAttestation_eq_false hf
  intro hv
  have hfree : ∀ f' proof', Finding.of? request response = some f' →
      response.proof = some proof' →
      CollisionFree (Merkle.Tree.strings (fs.map Finding.preimage) f'.preimage proof') := by
    intro f' proof' hf' hp'
    cases hf.symm.trans hf'
    cases hp.symm.trans hp'
    exact free
  obtain ⟨g, hg, hf', -⟩ := (Merkle.Tree.verifyAttestation_iff_proofOf? hroot hfree).mp hv
  cases hf.symm.trans hf'
  exact hmem hg

theorem verifyAttestation_of_other_round {t : Traffic} (h : t.Reachable) (hne : round ≠ other)
    (he : Codec.encode request = .ok data)
    (hr : t.network.obtain round data = ⟨true, some response⟩) (hp : response.proof = some proof)
    (hroot : t.network.root? other = some root)
    (free : CollisionFree (Merkle.Tree.strings ((t.network.findings other).map Finding.preimage)
      (Finding.mk request.source round response.body).preimage proof)) :
    ⟨request.source, round, response.body⟩ ∈ t.network.findings round ∧
      verifyAttestation request response root = .ok false := by
  have hn := (Traffic.Orderly.of_reachable h).sound
  have hr := response?_of_obtain hr hp
  obtain ⟨hk, hround, hmem⟩ := hn.mem_findings he hr
  obtain ⟨hbuild, hrounds⟩ := hn.root?_findings hroot
  have hf := Finding.of?_eq_some hk hround
  exact ⟨hmem, verifyAttestation_of_not_mem hbuild hf (fun hg => hne (hrounds _ hg)) hp free⟩

section Heights

/-- The bytes of the request for the height of a block, with a window of 20 seconds. -/
def heightBytes (number : UInt8) : Bytes :=
  [0, 3, 0, 0, 0, 0] ++ List.replicate 32 0 ++ [0, 0, 0, number, 0, 0, 0, 20]

def tenBlocks : Chain :=
  (Chain.start .btc 2 10).mineEmpty 10

def five : ResponseBody :=
  .blockHeight ⟨5, 1700000050, 2, 10000, 3, 1700000030⟩

def six : ResponseBody :=
  .blockHeight ⟨6, 1700000060, 2, 10000, 4, 1700000040⟩

lemma supported_five :
    Supported standardSalt tenBlocks (heightBytes 5) (.blockHeight .btc 5 20) (.pending five) :=
  ⟨rfl, rfl, .inl rfl⟩

lemma supported_six :
    Supported standardSalt tenBlocks (heightBytes 6) (.blockHeight .btc 6 20) (.pending six) :=
  ⟨rfl, rfl, .inl rfl⟩

lemma encode_five : Codec.encode (.blockHeight .btc 5 20) = .ok (heightBytes 5) :=
  Codec.encode_of_decode supported_five.decoded

lemma encode_six : Codec.encode (.blockHeight .btc 6 20) = .ok (heightBytes 6) :=
  Codec.encode_of_decode supported_six.decoded

lemma leaves_heights :
    (Finding.mk .btc 1 five).leaf =
      0x283dbfec7eea35f33551ffcdbb4f3352282fbea7e83b7b93fd4b87d037edc8f1 ∧
    (Finding.mk .btc 1 six).leaf =
      0xcfdcdc0a419fa05e1ecf214a539d75ecb93f707903ad616c75c96f633b6976ee ∧
    (Finding.mk .btc 2 five).leaf =
      0x1bada86501142ceb1ff358e16bcf9085c999125c43f3d81987bbd4fcc47006f := by
  refine ⟨?_, ?_, ?_⟩
  all_goals
    rw [Finding.leaf, keccak_eq]
    decide +kernel

lemma join_five_six : Merkle.join (Finding.mk .btc 1 five).leaf (Finding.mk .btc 1 six).leaf =
    0x2a52d03abe26b2bc6b2d3bf4e2d3cc39417871f575c82ebf4509f591c47af84 := by
  obtain ⟨hfive, hsix, -⟩ := leaves_heights
  rw [Merkle.join, hfive, hsix, keccak_eq]
  decide +kernel

/-- The height of block 5 is attested in two rounds, in the first one beside that of block 6. -/
def fiveTwice : Network :=
  ((((start .manual standardSalt).put (heightBytes 5)).put (heightBytes 6)).finalize
    tenBlocks |>.put (heightBytes 5)).finalize tenBlocks

lemma reachable_fiveTwice : ∃ t : Traffic, t.Reachable ∧ t.network = fiveTwice := by
  have h₀ := Traffic.Reachable.start .manual standardSalt
  have h₁ := h₀.step (show Traffic.next? _ (.file (.blockHeight .btc 5 20)) = some _ from rfl)
  rw [Traffic.file_of_accepted encode_five rfl] at h₁
  have h₂ := h₁.step (show Traffic.next? _ (.file (.blockHeight .btc 6 20)) = some _ from rfl)
  rw [Traffic.file_of_accepted encode_six rfl] at h₂
  have h₃ := h₂.step (show Traffic.next? _ (.finalize tenBlocks) = some _ from rfl)
  have h₄ := h₃.step (show Traffic.next? _ (.file (.blockHeight .btc 5 20)) = some _ from rfl)
  rw [Traffic.file_of_accepted encode_five rfl] at h₄
  have h₅ := h₄.step (show Traffic.next? _ (.finalize tenBlocks) = some _ from rfl)
  exact ⟨_, h₅, rfl⟩

lemma round?_fiveTwice_one : fiveTwice.round? 1 =
    some (closeRound standardSalt tenBlocks 1 [heightBytes 5, heightBytes 6]) :=
  rfl

lemma round?_fiveTwice_two :
    fiveTwice.round? 2 = some (closeRound standardSalt tenBlocks 2 [heightBytes 5]) :=
  rfl

lemma obtain_fiveTwice : fiveTwice.obtain 1 (heightBytes 5) = ⟨true,
    some (((Response.pending five).withRound 1).withProof [(Finding.mk .btc 1 six).leaf])⟩ := by
  have hlt : (Finding.mk .btc 1 five).leaf < (Finding.mk .btc 1 six).leaf := by
    obtain ⟨hfive, hsix, -⟩ := leaves_heights
    rw [hfive, hsix]
    decide
  have htree : roundTree standardSalt tenBlocks 1 [heightBytes 5, heightBytes 6] =
      .build [(Finding.mk .btc 1 five).leaf, (Finding.mk .btc 1 six).leaf] := by
    rw [roundTree]
    simp only [List.filterMap_cons, validate_of_supported 1 supported_five,
      validate_of_supported 1 supported_six]
    rfl
  have hr : fiveTwice.response? 1 (heightBytes 5) =
      some (((Response.pending five).withRound 1).withProof [(Finding.mk .btc 1 six).leaf]) := by
    rw [response?, round?_fiveTwice_one, Option.bind_some, response?_closeRound,
      if_pos List.mem_cons_self, validate_of_supported 1 supported_five, Option.map_some, proven,
      htree]
    exact congrArg (fun p => some (Response.withProof _ (Option.getD p [])))
      (Merkle.Tree.proofOf?_two hlt)
  rw [obtain, if_pos (isFinalized_of_response? hr), hr]
  rfl

lemma findings_fiveTwice : fiveTwice.findings 2 = [⟨.btc, 2, five⟩] := by
  rw [findings, round?_fiveTwice_two, Option.map_some, Option.getD_some, findings_closeRound,
    List.filterMap_cons, validate_of_supported 2 supported_five]
  rfl

lemma root?_fiveTwice : fiveTwice.root? 2 = some (Finding.mk .btc 2 five).leaf := by
  rw [root?, round?_fiveTwice_two, Option.bind_some, root_closeRound, roundTree,
    List.filterMap_cons, validate_of_supported 2 supported_five]
  exact Merkle.Tree.root?_one _

lemma collisionFree_fiveTwice : CollisionFree (Merkle.Tree.strings
    ((fiveTwice.findings 2).map Finding.preimage) (Finding.mk .btc 1 five).preimage
    [(Finding.mk .btc 1 six).leaf]) := by
  rw [findings_fiveTwice, Merkle.Tree.strings]
  have hpairs : (Merkle.Tree.build ([(Finding.mk .btc 2 five).preimage].map keccak)).pairs = [] :=
    Merkle.Tree.pairs_one _
  rw [List.map_singleton, hpairs]
  apply Merkle.collisionFree_of_nodup
  change [(Finding.mk .btc 2 five).leaf, (Finding.mk .btc 1 five).leaf,
    Merkle.join (Finding.mk .btc 1 five).leaf (Finding.mk .btc 1 six).leaf].Nodup
  obtain ⟨hone, -, htwo⟩ := leaves_heights
  rw [htwo, join_five_six, hone]
  decide

end Heights

theorem verifyAttestation_of_other_round_height : ∃ (t : Traffic) (response : Response)
    (proof : List Hash) (root : Hash), t.Reachable ∧ t.network = fiveTwice ∧
      Codec.encode (.blockHeight .btc 5 20) = .ok (heightBytes 5) ∧
      t.network.obtain 1 (heightBytes 5) = ⟨true, some response⟩ ∧
      response.proof = some proof ∧ proof ≠ [] ∧ t.network.root? 2 = some root ∧
      CollisionFree (Merkle.Tree.strings ((t.network.findings 2).map Finding.preimage)
        (Finding.mk .btc 1 response.body).preimage proof) ∧
      ⟨.btc, 1, response.body⟩ ∈ t.network.findings 1 ∧
      verifyAttestation (.blockHeight .btc 5 20) response root = .ok false := by
  obtain ⟨t, h, ht⟩ := reachable_fiveTwice
  have hserved := obtain_fiveTwice
  have hroot := root?_fiveTwice
  have free := collisionFree_fiveTwice
  rw [← ht] at hserved hroot free
  exact ⟨t, _, _, _, h, ht, encode_five, hserved, rfl, by simp, hroot, free,
    verifyAttestation_of_other_round h (by decide) encode_five hserved rfl hroot free⟩

end Network

end Attestation
