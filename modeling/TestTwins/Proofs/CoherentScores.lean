import Mathlib.Data.Finset.Card
import Mathlib.Data.List.Perm.Basic
import TestTwins.Proofs.Clustering

namespace TestTwins

namespace Leader

variable {n : Nat} {near : Fin n → Fin n → Prop}

theorem near_of_mem_group (hnear : Equivalence near) {s i : Fin n} (hi : i ∈ group near s) :
    near s i := by
  rcases mem_group.1 hi with rfl | ⟨-, hleads⟩
  · exact hnear.refl i
  · exact hleads.1.2.2

theorem IsSeed.eq_of_near (hnear : Equivalence near) {s s' : Fin n} (hs : IsSeed near s)
    (hs' : IsSeed near s') (h : near s s') : s = s' := by
  rcases lt_trichotomy s s' with hlt | heq | hgt
  · exact absurd h (isSeed_iff.1 hs' s hlt hs)
  · exact heq
  · exact absurd (hnear.symm h) (isSeed_iff.1 hs s' hgt hs')

theorem mem_group_iff_near (hnear : Equivalence near) {s : Fin n} (hs : IsSeed near s) {i : Fin n} :
    i ∈ group near s ↔ near s i := by
  refine ⟨near_of_mem_group hnear, fun h => ?_⟩
  obtain ⟨s', ⟨hs', hi⟩, -⟩ := existsUnique_group near i
  have hss' : near s s' := hnear.trans h (hnear.symm (near_of_mem_group hnear hi))
  rw [hs.eq_of_near hnear hs' hss']
  exact hi

end Leader

namespace Cluster

open Leader

variable {K σ : Type} [Scalar K] {sim : String → String → K} {config : ClusterConfig K}

def members (c : Cluster K) : Finset TestId := c.tests.toFinset

def classOf (sim : String → String → K) (config : ClusterConfig K) (ids : List TestId) (t : TestId) :
    Finset TestId :=
  (ids.filter (Joins sim config t ·)).toFinset

@[simp] theorem mem_classOf {ids : List TestId} {t u : TestId} :
    u ∈ classOf sim config ids t ↔ u ∈ ids ∧ Joins sim config t u := by
  simp [classOf]

/-- Being similar is an equivalence on the given tests. -/
def Coherent (sim : String → String → K) (config : ClusterConfig K) (ids : List TestId) : Prop :=
  Equivalence fun a b : {t // t ∈ ids} => Joins sim config a b

variable {ids ids' : List TestId}

theorem Coherent.perm (h : Coherent sim config ids) (hperm : ids.Perm ids') :
    Coherent sim config ids' where
  refl a := h.refl ⟨a, hperm.mem_iff.2 a.2⟩
  symm {a b} := h.symm (x := ⟨a, hperm.mem_iff.2 a.2⟩) (y := ⟨b, hperm.mem_iff.2 b.2⟩)
  trans {a b c} := h.trans (x := ⟨a, hperm.mem_iff.2 a.2⟩) (y := ⟨b, hperm.mem_iff.2 b.2⟩)
    (z := ⟨c, hperm.mem_iff.2 c.2⟩)

theorem Coherent.near (h : Coherent sim config ids) : Equivalence (Near sim config ids) :=
  h.comap fun i => ⟨ids.get i, ids.get_mem i⟩

theorem classOf_perm (hperm : ids.Perm ids') (t : TestId) :
    classOf sim config ids t = classOf sim config ids' t :=
  List.toFinset_eq_of_perm _ _ (hperm.filter _)

theorem Coherent.classOf_eq (h : Coherent sim config ids) {a b : TestId} (ha : a ∈ ids) (hb : b ∈ ids)
    (hab : Joins sim config a b) : classOf sim config ids a = classOf sim config ids b := by
  ext t
  simp only [mem_classOf]
  refine and_congr_right fun ht => ⟨fun hat => ?_, fun hbt => ?_⟩
  · have hba := h.symm (x := ⟨a, ha⟩) (y := ⟨b, hb⟩) hab
    exact h.trans (x := ⟨b, hb⟩) (y := ⟨a, ha⟩) (z := ⟨t, ht⟩) hba hat
  · exact h.trans (x := ⟨a, ha⟩) (y := ⟨b, hb⟩) (z := ⟨t, ht⟩) hab hbt

theorem Coherent.members_ofGroup (h : Coherent sim config ids) {s : Fin ids.length}
    (hs : IsSeed (Near sim config ids) s) :
    (ofGroup sim config (ids.get s) ((group (Near sim config ids) s).map ids.get)).members =
      classOf sim config ids (ids.get s) := by
  ext t
  simp only [members, ofGroup, mem_classOf, List.mem_toFinset, List.mem_map, mem_group_iff_near h.near hs]
  constructor
  · rintro ⟨i, hi, rfl⟩
    exact ⟨ids.get_mem i, hi⟩
  · rintro ⟨ht, hjoins⟩
    obtain ⟨i, rfl⟩ := List.get_of_mem ht
    exact ⟨i, hjoins, rfl⟩

theorem nodup_group (hids : ids.Nodup) (s : Fin ids.length) :
    ((group (Near sim config ids) s).map ids.get).Nodup :=
  ((List.nodup_finRange _).filter _).map hids.injective_get

theorem Coherent.mem_map_members (h : Coherent sim config ids) (hids : ids.Nodup)
    {set : Finset TestId} :
    set ∈ (ofLeaders sim config ids).map members ↔
      config.minSize ≤ set.card ∧ ∃ t ∈ ids, classOf sim config ids t = set := by
  have hcard : ∀ s : Fin ids.length, IsSeed (Near sim config ids) s →
      (classOf sim config ids (ids.get s)).card = (group (Near sim config ids) s).length := by
    intro s hs
    rw [← h.members_ofGroup hs]
    exact (List.toFinset_card_of_nodup (nodup_group hids s)).trans (List.length_map _)
  simp only [List.mem_map, mem_ofLeaders]
  constructor
  · rintro ⟨_, ⟨s, hs, rfl⟩, rfl⟩
    refine ⟨?_, ids.get s, ids.get_mem s, (h.members_ofGroup hs.1).symm⟩
    rw [h.members_ofGroup hs.1, hcard s hs.1]
    exact hs.2
  · rintro ⟨hsize, t, ht, rfl⟩
    obtain ⟨i, rfl⟩ := List.get_of_mem ht
    obtain ⟨s, ⟨hs, hi⟩, -⟩ := existsUnique_group (Near sim config ids) i
    have hclass := h.classOf_eq (ids.get_mem s) (ids.get_mem i) (near_of_mem_group h.near hi)
    rw [← hclass] at hsize ⊢
    exact ⟨_, ⟨s, ⟨hs, (hcard s hs) ▸ hsize⟩, rfl⟩, h.members_ofGroup hs⟩

theorem Coherent.nodup_map_members (h : Coherent sim config ids) :
    ((ofLeaders sim config ids).map members).Nodup := by
  rw [ofLeaders, List.map_map]
  refine List.Nodup.map_on ?_ ((List.nodup_finRange _).filter _)
  intro s hs s' hs' heq
  have hseed : IsSeed (Near sim config ids) s := (by simpa using hs : IsReported sim config ids s).1
  have hseed' : IsSeed (Near sim config ids) s' := (by simpa using hs' : IsReported sim config ids s').1
  have hclasses : classOf sim config ids (ids.get s) = classOf sim config ids (ids.get s') := by
    rw [← h.members_ofGroup hseed, ← h.members_ofGroup hseed']
    exact heq
  have hself : ids.get s' ∈ classOf sim config ids (ids.get s) := by
    rw [hclasses, mem_classOf]
    exact ⟨ids.get_mem s', h.refl ⟨ids.get s', ids.get_mem s'⟩⟩
  exact hseed.eq_of_near h.near hseed' (mem_classOf.1 hself).2

theorem mean_perm (hadd : RightCommutative fun a b : K => a + b) {scores scores' : List K}
    (hperm : scores.Perm scores') : mean scores = mean scores' := by
  have hsum := hperm.foldl_eq (f := fun a b : K => a + b) Scalar.zero
  simp only [mean, hperm.isEmpty_eq, hsum, hperm.length_eq]

theorem score_ofGroup_perm (hsymm : ∀ a b, sim a b = sim b a)
    (hadd : RightCommutative fun a b : K => a + b) (config : ClusterConfig K) (seed seed' : TestId)
    {tests tests' : List TestId} (hperm : tests.Perm tests') :
    (ofGroup sim config seed tests).score = (ofGroup sim config seed' tests').score :=
  mean_perm hadd (pairsOf_perm (fun _ _ => hsymm _ _) hperm)

def summary (c : Cluster K) : Finset TestId × K × ClusterType := (c.members, c.score, c.type)

theorem Coherent.summary_mem (h : Coherent sim config ids) (hids : ids.Nodup)
    (hsymm : ∀ a b, sim a b = sim b a) (hadd : RightCommutative fun a b : K => a + b)
    (hperm : ids.Perm ids') {x : Finset TestId × K × ClusterType}
    (hx : x ∈ (ofLeaders sim config ids).map summary) :
    x ∈ (ofLeaders sim config ids').map summary := by
  obtain ⟨c, hc, rfl⟩ := List.mem_map.1 hx
  have hmem := (h.mem_map_members hids).1 (List.mem_map_of_mem hc)
  simp only [classOf_perm hperm, hperm.mem_iff] at hmem
  obtain ⟨c', hc', hmembers⟩ := List.mem_map.1
    (((h.perm hperm).mem_map_members (hperm.nodup_iff.1 hids)).2 hmem)
  refine List.mem_map.2 ⟨c', hc', ?_⟩
  obtain ⟨s, -, rfl⟩ := mem_ofLeaders.1 hc
  obtain ⟨s', -, rfl⟩ := mem_ofLeaders.1 hc'
  have htests := List.perm_of_nodup_nodup_toFinset_eq (nodup_group (hperm.nodup_iff.1 hids) s')
    (nodup_group hids s) hmembers
  have hscore := score_ofGroup_perm hsymm hadd config (ids'.get s') (ids.get s) htests
  have htype := congrArg (ClusterType.classify · config.thresholds) hscore
  exact Prod.ext hmembers (Prod.ext hscore htype)

theorem accepted_perm {keys keys' : List String} (h : keys.Perm keys') :
    (accepted keys).Perm (accepted keys') :=
  h.filterMap _

/-- Where scores are symmetric and being similar is an equivalence on the tests, the reported groups are
the large enough classes, in whatever order the tests come; with exact sums the score and the type of
each class are the same as well. -/
theorem ofKeys_of_perm (sim : String → String → K) (hsymm : ∀ a b, sim a b = sim b a)
    (config : ClusterConfig K) {keys keys' : List String} (hkeys : keys.Nodup) (hperm : keys.Perm keys')
    (hcoherent : Coherent sim config (accepted keys)) (state state' : σ) :
    (∀ set, set ∈ (ofKeys (fun a b => pure (sim a b)) config keys state).1.map members ↔
        config.minSize ≤ set.card ∧ ∃ t ∈ accepted keys, classOf sim config (accepted keys) t = set) ∧
      ((ofKeys (fun a b => pure (sim a b)) config keys state).1.map members).Perm
        ((ofKeys (fun a b => pure (sim a b)) config keys' state').1.map members) ∧
      ((RightCommutative fun a b : K => a + b) →
        ((ofKeys (fun a b => pure (sim a b)) config keys state).1.map summary).Perm
          ((ofKeys (fun a b => pure (sim a b)) config keys' state').1.map summary)) := by
  have hids := accepted_perm hperm
  have hnodup : (accepted keys).Nodup := nodup_accepted hkeys
  have hnodup' := hids.nodup_iff.1 hnodup
  have hcoherent' := hcoherent.perm hids
  have hclusters := ((scores_pure (σ := σ) sim (accepted keys)).ofKeys config state trivial).1
  have hclusters' := ((scores_pure (σ := σ) sim (accepted keys')).ofKeys config state' trivial).1
  rw [hclusters, hclusters']
  refine ⟨fun set => hcoherent.mem_map_members hnodup, ?_, fun hadd => ?_⟩
  · rw [List.perm_ext_iff_of_nodup hcoherent.nodup_map_members hcoherent'.nodup_map_members]
    intro set
    simp only [hcoherent.mem_map_members hnodup, hcoherent'.mem_map_members hnodup', classOf_perm hids,
      hids.mem_iff]
  · have hdistinct : ∀ {ids : List TestId}, Coherent sim config ids →
        ((ofLeaders sim config ids).map summary).Nodup := by
      intro ids h
      apply List.Nodup.of_map Prod.fst
      rw [List.map_map]
      exact h.nodup_map_members
    rw [List.perm_ext_iff_of_nodup (hdistinct hcoherent) (hdistinct hcoherent')]
    intro x
    exact ⟨hcoherent.summary_mem hnodup hsymm hadd hids,
      hcoherent'.summary_mem hnodup' hsymm hadd hids.symm⟩

def byLength (a b : String) : Rat := if a.length = b.length then 1 else 0

def pairsOnly : ClusterConfig Rat := ⟨⟨1, 1, 1⟩, 2, 10⟩

theorem joins_byLength {a b : TestId} :
    Joins byLength pairsOnly a b ↔ a.similarityKey.length = b.similarityKey.length := by
  have hone : ¬ (1 : Rat) ≤ 0 := by decide
  simp only [Joins, byLength, pairsOnly]
  split <;> simp_all

theorem coherent_byLength (ids : List TestId) : Coherent byLength pairsOnly ids where
  refl _ := joins_byLength.2 rfl
  symm h := joins_byLength.2 (joins_byLength.1 h).symm
  trans h h' := joins_byLength.2 ((joins_byLength.1 h).trans (joins_byLength.1 h'))

theorem ofKeys_of_perm_byLength :
    ((ofKeys (fun a b => pure (byLength a b)) pairsOnly ["f:a", "f:bb", "f:c"] ()).1.map summary).Perm
        ((ofKeys (fun a b => pure (byLength a b)) pairsOnly ["f:c", "f:bb", "f:a"] ()).1.map summary) ∧
      ((ofKeys (fun a b => pure (byLength a b)) pairsOnly ["f:c", "f:bb", "f:a"] ()).1.map members) =
        [{⟨"a", "f"⟩, ⟨"c", "f"⟩}] := by
  have hadd : RightCommutative fun a b : Rat => a + b :=
    ⟨fun a b c => by rw [Rat.add_assoc, Rat.add_comm b c, ← Rat.add_assoc]⟩
  have hperm : ["f:a", "f:bb", "f:c"].Perm ["f:c", "f:bb", "f:a"] := by decide
  obtain ⟨-, -, hsummary⟩ := ofKeys_of_perm byLength (fun a b => by simp [byLength, eq_comm]) pairsOnly
    (by decide) hperm (coherent_byLength _) () ()
  exact ⟨hsummary hadd, by decide +kernel⟩

end Cluster

end TestTwins
