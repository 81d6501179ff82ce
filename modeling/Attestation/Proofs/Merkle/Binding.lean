import Mathlib
import Attestation.Hash.Lemmas
import Attestation.Proofs.Finding
import Attestation.Proofs.Merkle.Inclusion
import Attestation.Proofs.Sponge

/-!
A root binds the strings behind its leaves, as long as no two of the strings that are hashed have
one hash. Inner nodes hash 64 bytes and leaves hash strings of other lengths, so a proof that leads
to a node begins at a leaf and runs over the siblings of the way up (`proof?_of_climb`).
-/

namespace Attestation.Merkle

def CollisionFree (strings : List Bytes) : Prop :=
  ∀ x ∈ strings, ∀ y ∈ strings, keccak x = keccak y → x = y

instance (strings : List Bytes) : Decidable (CollisionFree strings) :=
  inferInstanceAs (Decidable (∀ x ∈ strings, ∀ y ∈ strings, keccak x = keccak y → x = y))

lemma CollisionFree.mono {S T : List Bytes} (h : CollisionFree T) (hs : S ⊆ T) :
    CollisionFree S :=
  fun x hx y hy => h x (hs hx) y (hs hy)

lemma collisionFree_of_nodup {S : List Bytes} (h : (S.map keccak).Nodup) : CollisionFree S :=
  fun _ hx _ hy => List.inj_on_of_nodup_map h hx hy

/-- The strings that the inner nodes of a tree hash. -/
def Tree.pairs (t : Tree) : List Bytes :=
  (List.finRange (t.leafCount - 1)).map fun i => pair t.nodes[2 * i.val + 1] t.nodes[2 * i.val + 2]

/-- The strings that are hashed on the way up. -/
def climbed (leaf : Hash) : List Hash → List Bytes
  | [] => []
  | s :: proof => pair leaf s :: climbed (join leaf s) proof

lemma length_pair (a b : Hash) : (pair a b).length = 64 := by
  rw [pair]
  split <;> simp

lemma append_toBytes_inj {w x y z : Hash}
    (h : Word.toBytes w ++ Word.toBytes x = Word.toBytes y ++ Word.toBytes z) : w = y ∧ x = z := by
  have hl : (Word.toBytes w).length = (Word.toBytes y).length := by
    rw [Word.length_toBytes, Word.length_toBytes]
  obtain ⟨hw, hx⟩ := List.append_inj h hl
  exact ⟨Word.toBytes_inj.mp hw, Word.toBytes_inj.mp hx⟩

-- The four cases are the orders in which either pair may stand.
lemma pair_inj {a b c d : Hash} (h : pair a b = pair c d) : a = c ∧ b = d ∨ a = d ∧ b = c := by
  simp only [pair] at h
  split at h <;> split at h
  · exact .inl (append_toBytes_inj h)
  · exact .inr (append_toBytes_inj h)
  · obtain ⟨hb, ha⟩ := append_toBytes_inj h
    exact .inr ⟨ha, hb⟩
  · obtain ⟨hb, ha⟩ := append_toBytes_inj h
    exact .inl ⟨ha, hb⟩

lemma climb_append (leaf : Hash) (xs ys : List Hash) :
    climb leaf (xs ++ ys) = climb (climb leaf xs) ys :=
  List.foldl_append

lemma climbed_append (leaf : Hash) (xs ys : List Hash) :
    climbed leaf (xs ++ ys) = climbed leaf xs ++ climbed (climb leaf xs) ys := by
  induction xs generalizing leaf with
  | nil => rfl
  | cons x xs ih =>
    rw [List.cons_append, climbed, ih, climbed, List.cons_append]
    rfl

lemma climb_concat (leaf s : Hash) (proof : List Hash) :
    climb leaf (proof ++ [s]) = join (climb leaf proof) s :=
  climb_append leaf proof [s]

lemma climbed_concat (leaf s : Hash) (proof : List Hash) :
    climbed leaf (proof ++ [s]) = climbed leaf proof ++ [pair (climb leaf proof) s] :=
  climbed_append leaf proof [s]

namespace Tree

variable {t : Tree} {pos : ℕ} {S : List Bytes} {p q : Bytes} {proof : List Hash}

lemma pair_mem_pairs {i : ℕ} (hi : i < t.leafCount - 1) :
    pair t.nodes[2 * i + 1] t.nodes[2 * i + 2] ∈ t.pairs :=
  List.mem_map.mpr ⟨⟨i, hi⟩, List.mem_finRange _, rfl⟩

/-- Strings among which there is no collision and which hold what a tree hashes: the pairs of its
inner nodes, and for each leaf a string that is no pair. -/
structure Separates (S : List Bytes) (t : Tree) : Prop where
  free : CollisionFree S
  joined : Joined t.nodes 0
  pairs : ∀ q ∈ t.pairs, q ∈ S
  leaves : ∀ x ∈ t.leaves, ∃ q ∈ S, keccak q = x ∧ q.length ≠ 64

lemma exists_leaf_of_keccak (hs : Separates S t) (hq : q ∈ S) (hl : q.length ≠ 64)
    (h : pos < 2 * t.leafCount - 1) (he : keccak q = t.nodes[pos]) :
    ∃ i, pos = t.leafCount - 1 + i := by
  by_contra hne
  have hi : pos < t.leafCount - 1 := by
    by_contra hi
    exact hne ⟨pos - (t.leafCount - 1), by omega⟩
  rw [hs.joined pos hi (Nat.zero_le pos)] at he
  have hp := hs.free _ hq _ (hs.pairs _ (pair_mem_pairs hi)) he
  exact hl (hp ▸ length_pair _ _)

lemma eq_pair_of_keccak (hs : Separates S t) (hq : q ∈ S) (hl : q.length = 64)
    (h : pos < 2 * t.leafCount - 1) (he : keccak q = t.nodes[pos]) :
    ∃ _ : pos < t.leafCount - 1, q = pair t.nodes[2 * pos + 1] t.nodes[2 * pos + 2] := by
  by_cases hi : pos < t.leafCount - 1
  · rw [hs.joined pos hi (Nat.zero_le pos)] at he
    exact ⟨hi, hs.free _ hq _ (hs.pairs _ (pair_mem_pairs hi)) he⟩
  · have hm : t.leaves[pos - (t.leafCount - 1)]? = some t.nodes[pos] := by
      rw [getElem?_leaves, Nat.add_sub_cancel' (Nat.not_lt.mp hi), Vector.getElem?_eq_getElem]
    obtain ⟨x, hx, hxe, hxl⟩ := hs.leaves _ (List.mem_of_getElem? hm)
    have hp := hs.free _ hq _ hx (he.trans hxe.symm)
    exact absurd (hp ▸ hl) hxl

-- From the top down, along the climb reversed.
lemma proof?_of_climb (hs : Separates S t) (hp : p ∈ S) (hl : p.length ≠ 64)
    (hc : ∀ q ∈ climbed (keccak p) proof, q ∈ S) (h : pos < 2 * t.leafCount - 1)
    (he : climb (keccak p) proof = t.nodes[pos]) :
    ∃ i, t.leaves[i]? = some (keccak p) ∧ t.proof? i = some (proof ++ t.siblings pos h) := by
  induction proof using List.reverseRecOn generalizing pos with
  | nil =>
    obtain ⟨i, rfl⟩ := exists_leaf_of_keccak hs hp hl h he
    refine ⟨i, ?_, proof?_eq_some (by omega) h⟩
    rw [getElem?_leaves, Vector.getElem?_eq_getElem h, ← he]
    rfl
  | append_singleton proof s ih =>
    rw [climbed_concat, List.forall_mem_append] at hc
    obtain ⟨hc, hlast⟩ := hc
    rw [climb_concat] at he
    obtain ⟨hi, hq⟩ :=
      eq_pair_of_keccak hs (hlast _ List.mem_cons_self) (length_pair _ _) h he
    rw [List.append_assoc, List.singleton_append]
    -- The last pair is that of the children of the node: the rest of the climb leads to one of
    -- them, and its last sibling is the other.
    rcases pair_inj hq with ⟨hx, hy⟩ | ⟨hx, hy⟩
    · obtain ⟨i, hleaf, hproof⟩ := ih hc (by omega) hx
      exact ⟨i, hleaf, by rw [hproof, siblings_left, hy]⟩
    · obtain ⟨i, hleaf, hproof⟩ := ih hc (by omega) hx
      exact ⟨i, hleaf, by rw [hproof, siblings_right, hy]⟩

variable {P : List Bytes}

lemma mem_leaves_map {x : Hash} : x ∈ (build (P.map keccak)).leaves ↔ ∃ q ∈ P, keccak q = x := by
  rw [leaves_build, mem_sorted, List.mem_map]

lemma separates_build (hS : CollisionFree S) (hP : ∀ q ∈ P, q ∈ S ∧ q.length ≠ 64)
    (ht : ∀ q ∈ (build (P.map keccak)).pairs, q ∈ S) : Separates S (build (P.map keccak)) where
  free := hS
  joined := joined_build _
  pairs := ht
  leaves x hx := by
    obtain ⟨q, hq, he⟩ := mem_leaves_map.mp hx
    exact ⟨q, (hP q hq).1, he, (hP q hq).2⟩

/-- What is hashed when a tree over strings is built and a proof for a string is followed. -/
def strings (P : List Bytes) (p : Bytes) (proof : List Hash) : List Bytes :=
  P ++ p :: (build (P.map keccak)).pairs ++ climbed (keccak p) proof

lemma mem_strings : q ∈ strings P p proof ↔
    q ∈ P ∨ q = p ∨ q ∈ (build (P.map keccak)).pairs ∨ q ∈ climbed (keccak p) proof := by
  simp [strings]

lemma verify_iff_proofOf? {root : Hash} (hP : ∀ q ∈ P, q.length ≠ 64) (hl : p.length ≠ 64)
    (hs : CollisionFree (strings P p proof)) (hr : (build (P.map keccak)).root? = some root) :
    verify (keccak p) proof root = true ↔
      p ∈ P ∧ (build (P.map keccak)).proofOf? (keccak p) = some proof := by
  have hin : ∀ q ∈ P, q ∈ strings P p proof := fun q hq => mem_strings.mpr (.inl hq)
  have hp : p ∈ strings P p proof := mem_strings.mpr (.inr (.inl rfl))
  have hsep : Separates (strings P p proof) (build (P.map keccak)) :=
    separates_build hs (fun q hq => ⟨hin q hq, hP q hq⟩)
      fun q hq => mem_strings.mpr (.inr (.inr (.inl hq)))
  rw [verify, beq_iff_eq]
  constructor
  · intro he
    rw [root?_eq] at hr
    obtain ⟨h0, rfl⟩ := Vector.getElem?_eq_some_iff.mp hr
    have hc : ∀ q ∈ climbed (keccak p) proof, q ∈ strings P p proof :=
      fun q hq => mem_strings.mpr (.inr (.inr (.inr hq)))
    obtain ⟨i, hi, hproof⟩ := proof?_of_climb hsep hp hl hc h0 he
    rw [siblings_zero, List.append_nil] at hproof
    obtain ⟨q, hq, hqe⟩ := mem_leaves_map.mp (List.mem_of_getElem? hi)
    have hqp := hs q (hin q hq) p hp hqe
    have ha : (build (P.map keccak)).leaves.Pairwise (· < ·) :=
      leaves_build _ ▸ sorted_ascending _
    refine ⟨hqp ▸ hq, ?_⟩
    rw [proofOf?, idxOf?_of_ascending ha hi]
    exact hproof
  · rintro ⟨-, hproof⟩
    exact Option.some.inj ((climb_proofOf? hsep.joined hproof).symm.trans hr)

lemma verifyAttestation_iff_proofOf? {fs : List Finding} {request : Request} {response : Response}
    {root : Hash} (hr : (build (fs.map Finding.leaf)).root? = some root)
    (hs : ∀ f proof, Finding.of? request response = some f → response.proof = some proof →
      CollisionFree (strings (fs.map Finding.preimage) f.preimage proof)) :
    verifyAttestation request response root = .ok true ↔ ∃ f ∈ fs,
      Finding.of? request response = some f ∧
        response.proof = (build (fs.map Finding.leaf)).proofOf? f.leaf := by
  have hm : fs.map Finding.leaf = (fs.map Finding.preimage).map keccak := by
    rw [List.map_map]
    rfl
  have hP : ∀ q ∈ fs.map Finding.preimage, q.length ≠ 64 :=
    List.forall_mem_map.mpr fun f _ => f.length_preimage_ne
  rw [hm] at hr ⊢
  rw [Finding.verifyAttestation_eq_true_iff]
  constructor
  · rintro ⟨f, proof, hf, hp, hv⟩
    obtain ⟨hmem, hproof⟩ :=
      (verify_iff_proofOf? hP f.length_preimage_ne (hs f proof hf hp) hr).mp hv
    obtain ⟨g, hg, he⟩ := List.mem_map.mp hmem
    exact ⟨f, Finding.preimage_inj.mp he ▸ hg, hf, hp.trans hproof.symm⟩
  · rintro ⟨f, hf, hof, hp⟩
    have hmem : f.preimage ∈ fs.map Finding.preimage := List.mem_map_of_mem hf
    obtain ⟨proof, hproof⟩ := exists_proofOf? (mem_leaves_map.mpr ⟨f.preimage, hmem, rfl⟩)
    rw [show keccak f.preimage = f.leaf from rfl] at hproof
    rw [hproof] at hp
    refine ⟨f, proof, hof, hp, ?_⟩
    exact (verify_iff_proofOf? hP f.length_preimage_ne (hs f proof hof hp) hr).mpr ⟨hmem, hproof⟩

lemma build_one (a : Hash) : build [a] = ofSorted [a] := by
  apply congrArg ofSorted
  exact sorted_of_ascending (List.pairwise_singleton _ a)

lemma root?_one (a : Hash) : (build [a]).root? = some a := by
  rw [build_one]
  rfl

lemma pairs_one (a : Hash) : (build [a]).pairs = [] := by
  rw [build_one]
  rfl

lemma build_two {a b : Hash} (h : a < b) : build [a, b] = ofSorted [a, b] := by
  apply congrArg ofSorted
  exact sorted_of_ascending (List.pairwise_pair.mpr h)

lemma root?_two {a b : Hash} (h : a < b) : (build [a, b]).root? = some (join a b) := by
  rw [build_two h]
  rfl

lemma pairs_two {a b : Hash} (h : a < b) : (build [a, b]).pairs = [pair a b] := by
  rw [build_two h]
  rfl

lemma proofOf?_two {a b : Hash} (h : a < b) : (build [a, b]).proofOf? a = some [b] := by
  have ha : (build [a, b]).leaves.Pairwise (· < ·) := leaves_build _ ▸ sorted_ascending _
  have h0 : (build [a, b]).leaves[0]? = some a := by
    rw [build_two h]
    rfl
  have hroom : 2 * 0 + 1 < 2 * (ofSorted [a, b]).leafCount - 1 := Nat.lt_of_sub_eq_succ rfl
  have hs : (ofSorted [a, b]).siblings (2 * 0 + 1) hroom = [b] := by
    rw [siblings_left, siblings_zero]
    rfl
  rw [proofOf?, idxOf?_of_ascending ha h0, build_two h, Option.bind_some]
  exact (proof?_eq_some Nat.zero_lt_two hroom).trans (congrArg some hs)

theorem root_binding :
    (∀ (P : List Bytes) (p : Bytes) (proof : List Hash), P ≠ [] → (∀ q ∈ P, q.length ≠ 64) →
      p.length ≠ 64 → CollisionFree (strings P p proof) →
      ∃ root, (build (P.map keccak)).root? = some root ∧ (verify (keccak p) proof root = true ↔
        p ∈ P ∧ (build (P.map keccak)).proofOf? (keccak p) = some proof)) ∧
    (∀ f : Finding, f.preimage.length ∈ [288, 320, 384, 480]) ∧
    ∀ (fs : List Finding) (request : Request) (response : Response) (root : Hash),
      (build (fs.map Finding.leaf)).root? = some root →
      (∀ f proof, Finding.of? request response = some f → response.proof = some proof →
        CollisionFree (strings (fs.map Finding.preimage) f.preimage proof)) →
      (verifyAttestation request response root = .ok true ↔ ∃ f ∈ fs,
        Finding.of? request response = some f ∧
          response.proof = (build (fs.map Finding.leaf)).proofOf? f.leaf) := by
  refine ⟨fun P p proof hne hP hl hs => ?_,
    fun f => Preimage.length_of_none f.body f.source f.round,
    fun fs request response root => verifyAttestation_iff_proofOf?⟩
  have hr : (build (P.map keccak)).root? ≠ none := by
    rw [Ne, root?_eq_none_iff, List.map_eq_nil_iff]
    exact hne
  obtain ⟨root, hr⟩ := Option.ne_none_iff_exists'.mp hr
  exact ⟨root, hr, verify_iff_proofOf? hP hl hs hr⟩

-- A proof for one of two findings, and the leaf of that finding taken for the root.
theorem root_binding_two :
    ∃ (f g : Finding) (request : Request) (response : Response) (root : Hash),
    (build [f.leaf, g.leaf]).root? = some root ∧ Finding.of? request response = some f ∧
      (build [f.leaf, g.leaf]).proofOf? f.leaf = some [g.leaf] ∧
      verifyAttestation request (response.withProof [g.leaf]) root = .ok true ∧
      verifyAttestation request (response.withProof []) root ≠ .ok true := by
  let height : ResponseBody := .blockHeight ⟨5, 1700000050, 2, 10000, 3, 1700000030⟩
  let f : Finding := ⟨.ltc, 7, height⟩
  let g : Finding := ⟨.btc, 7, height⟩
  let request := Request.blockHeight .ltc 5 20
  let response := (Response.pending height).withRound 7
  have hf : f.leaf = 0x33595e4409763eb0f5dba005d44a00f4c3ac111a43b68cc3f60f6eba51f03166 := by
    rw [Finding.leaf, keccak_eq]
    decide +kernel
  have hg : g.leaf = 0x7f70331d520e6aac5cec40193cc5dc24ba3ee1a9018eaec9452a3f6cc5331755 := by
    rw [Finding.leaf, keccak_eq]
    decide +kernel
  have hfg : join f.leaf g.leaf =
      0xaf693306f2c40eaf4bbe9ceb1ea71041eaf7f37d58ebd908fea7b7958a172d27 := by
    rw [join, hf, hg, keccak_eq]
    decide +kernel
  have hlt : f.leaf < g.leaf := by
    rw [hf, hg]
    decide
  have hr := root?_two hlt
  have hfree : CollisionFree [f.preimage, g.preimage, pair f.leaf g.leaf] := by
    apply collisionFree_of_nodup
    change [f.leaf, g.leaf, join f.leaf g.leaf].Nodup
    rw [hfg, hf, hg]
    decide
  have hone : CollisionFree (strings [f.preimage, g.preimage] f.preimage [g.leaf]) := by
    refine hfree.mono ?_
    change [f.preimage, g.preimage] ++ f.preimage :: (build [f.leaf, g.leaf]).pairs ++
      [pair f.leaf g.leaf] ⊆ _
    rw [pairs_two hlt]
    simp
  have hnone : CollisionFree (strings [f.preimage, g.preimage] f.preimage []) := by
    refine hfree.mono ?_
    change [f.preimage, g.preimage] ++ f.preimage :: (build [f.leaf, g.leaf]).pairs ++ [] ⊆ _
    rw [pairs_two hlt]
    simp
  have hof (proof : List Hash) : Finding.of? request (response.withProof proof) = some f := rfl
  obtain ⟨hleaf, -, hanswer⟩ := root_binding
  have hv (proof : List Hash)
      (hs : CollisionFree (strings [f.preimage, g.preimage] f.preimage proof)) :
      verifyAttestation request (response.withProof proof) (join f.leaf g.leaf) = .ok true ↔
        ∃ f' ∈ [f, g], Finding.of? request (response.withProof proof) = some f' ∧
          some proof = (build [f.leaf, g.leaf]).proofOf? f'.leaf := by
    refine hanswer [f, g] request _ _ hr fun f' proof' hf' hp => ?_
    cases Option.some.inj ((hof proof).symm.trans hf')
    cases hp
    exact hs
  have hproof : (build [f.leaf, g.leaf]).proofOf? f.leaf = some [g.leaf] := by
    obtain ⟨root, hroot, hone⟩ := hleaf [f.preimage, g.preimage] f.preimage [g.leaf] (by simp)
      (by simp [Finding.length_preimage_ne]) f.length_preimage_ne hone
    obtain rfl := Option.some.inj (hr.symm.trans hroot)
    exact (hone.mp (beq_self_eq_true _)).2
  refine ⟨f, g, request, response, _, hr, rfl, hproof, ?_, fun h => ?_⟩
  · exact (hv _ hone).mpr ⟨f, List.mem_cons_self, hof _, hproof.symm⟩
  · obtain ⟨f', -, hf', hp⟩ := (hv [] hnone).mp h
    cases Option.some.inj ((hof []).symm.trans hf')
    cases hp.trans hproof

end Tree

end Attestation.Merkle
