import Mathlib.Algebra.Order.BigOperators.Group.Finset
import Mathlib.Order.Bounds.Basic
import Mathlib.Tactic.FieldSimp
import Mathlib.Tactic.Linarith
import TestTwins.Proofs.Clustering

namespace TestTwins

def ClusterType.strength : ClusterType → Nat
  | similar => 0
  | near => 1
  | exact => 2

theorem ClusterType.strength_classify_mono {s s' : ℚ} (h : s ≤ s') (t : Thresholds ℚ) :
    (classify s t).strength ≤ (classify s' t).strength := by
  by_cases hexact : t.exact ≤ s
  · have hexact' : t.exact ≤ s' := hexact.trans h
    simp [classify, hexact, hexact']
  by_cases hnear : t.near ≤ s
  · have hnear' : t.near ≤ s' := hnear.trans h
    by_cases hexact' : t.exact ≤ s' <;> simp [classify, hexact, hnear, hexact', hnear', strength]
  · simp [classify, hexact, hnear, strength]

namespace Cluster

open Leader

variable {σ : Type}

theorem mean_rat (scores : List ℚ) : mean scores = scores.sum / scores.length := by
  have hsum : scores.foldl (· + ·) (Scalar.zero : ℚ) = scores.sum := List.sum_eq_foldl.symm
  cases scores with
  | nil => simp [mean]; rfl
  | cons s scores => rw [mean, if_neg (by simp), hsum]; rfl

def pairScore (sim : String → String → ℚ) (hsymm : ∀ a b, sim a b = sim b a) (tests : List TestId) :
    Sym2 (Fin tests.length) → ℚ :=
  Sym2.lift ⟨fun i j => sim (tests.get i).similarityKey (tests.get j).similarityKey,
    fun _ _ => hsymm _ _⟩

section Group

variable {sim sim' : String → String → ℚ} (hsymm : ∀ a b, sim a b = sim b a)
  (hsymm' : ∀ a b, sim' a b = sim' b a) (config : ClusterConfig ℚ) (seed : TestId)
  (tests : List TestId)

theorem score_ofGroup :
    (ofGroup sim config seed tests).score =
      (∑ e ∈ positionPairs tests.length, pairScore sim hsymm tests e) /
        (positionPairs tests.length).card := by
  have hscores : (pairsOf tests).map (fun p => sim p.1.similarityKey p.2.similarityKey) =
      (pairsOf (List.finRange tests.length)).map fun p => pairScore sim hsymm tests s(p.1, p.2) := by
    conv_lhs => rw [← List.map_get_finRange tests]
    rw [pairsOf_map, List.map_map]
    rfl
  have hlength := length_pairsOf (List.finRange tests.length)
  rw [List.length_finRange, ← card_positionPairs] at hlength
  change mean ((pairsOf tests).map fun p => sim p.1.similarityKey p.2.similarityKey) = _
  rw [hscores, mean_rat, sum_pairsOf, List.length_map, hlength]

theorem score_ofGroup_mul_card :
    (ofGroup sim config seed tests).score * (positionPairs tests.length).card =
      ∑ e ∈ positionPairs tests.length, pairScore sim hsymm tests e := by
  rw [score_ofGroup hsymm]
  rcases (positionPairs tests.length).eq_empty_or_nonempty with hnone | hsome
  · rw [hnone, Finset.sum_empty, zero_div, zero_mul]
  · exact div_mul_cancel₀ _ (Nat.cast_ne_zero.2 hsome.card_pos.ne')

theorem positionPairs_nonempty {n : Nat} (h : 2 ≤ n) : (positionPairs n).Nonempty :=
  ⟨s(⟨0, by omega⟩, ⟨1, by omega⟩), by simp⟩

theorem score_ofGroup_mem_Icc (h : 2 ≤ tests.length) :
    ∃ low high, IsLeast (pairScore sim hsymm tests '' positionPairs tests.length) low ∧
      IsGreatest (pairScore sim hsymm tests '' positionPairs tests.length) high ∧
      (ofGroup sim config seed tests).score ∈ Set.Icc low high := by
  have hsome := positionPairs_nonempty h
  obtain ⟨least, hleast, hlow⟩ := Finset.exists_min_image _ (pairScore sim hsymm tests) hsome
  obtain ⟨greatest, hgreatest, hhigh⟩ := Finset.exists_max_image _ (pairScore sim hsymm tests) hsome
  have hpos : (0 : ℚ) < (positionPairs tests.length).card := Nat.cast_pos.2 hsome.card_pos
  refine ⟨_, _, ⟨⟨least, hleast, rfl⟩, ?_⟩, ⟨⟨greatest, hgreatest, rfl⟩, ?_⟩, ?_, ?_⟩
  · rintro _ ⟨e, he, rfl⟩
    exact hlow e he
  · rintro _ ⟨e, he, rfl⟩
    exact hhigh e he
  · rw [score_ofGroup hsymm, le_div_iff₀ hpos, mul_comm, ← nsmul_eq_mul]
    exact Finset.card_nsmul_le_sum _ _ _ hlow
  · rw [score_ofGroup hsymm, div_le_iff₀ hpos, mul_comm, ← nsmul_eq_mul]
    exact Finset.sum_le_card_nsmul _ _ _ hhigh

theorem score_ofGroup_mono
    (h : ∀ e ∈ positionPairs tests.length,
      pairScore sim hsymm tests e ≤ pairScore sim' hsymm' tests e) :
    (ofGroup sim config seed tests).score ≤ (ofGroup sim' config seed tests).score := by
  rw [score_ofGroup hsymm, score_ofGroup hsymm']
  exact div_le_div_of_nonneg_right (Finset.sum_le_sum h) (Nat.cast_nonneg _)

end Group

theorem strength_ofGroup_mono {sim sim' : String → String → ℚ} (config : ClusterConfig ℚ)
    {seed seed' : TestId} {tests : List TestId}
    (h : (ofGroup sim config seed tests).score ≤ (ofGroup sim' config seed tests).score) :
    (ofGroup sim config seed tests).type.strength ≤
      (ofGroup sim' config seed' tests).type.strength :=
  ClusterType.strength_classify_mono h config.thresholds

theorem mem_ofKeys {K : Type} [Scalar K] {sim : String → String → K} {config : ClusterConfig K}
    {keys : List String} {state : σ} {c : Cluster K} :
    c ∈ (ofKeys (fun a b => pure (sim a b)) config keys state).1 ↔
      ∃ s, IsReported sim config (accepted keys) s ∧
        ofGroup sim config ((accepted keys).get s)
          ((group (Near sim config (accepted keys)) s).map (accepted keys).get) = c := by
  rw [((scores_pure (σ := σ) sim (accepted keys)).ofKeys config state trivial).1, mem_ofLeaders]

/-- By exact and symmetric scores, the score of every reported cluster of two tests or more is the mean
over the pairs of different members, in either order and each once, and it lies between the least and the
greatest of their scores. Where another score function gives the same groups and scores no pair of
members less, the cluster of these members is of the same type or a stronger one. -/
theorem score_of_pairs (sim : String → String → ℚ) (hsymm : ∀ a b, sim a b = sim b a)
    (config : ClusterConfig ℚ) (hmin : 2 ≤ config.minSize) (keys : List String) (state : σ) :
    ∀ c ∈ (ofKeys (fun a b => pure (sim a b)) config keys state).1,
      c.score * (c.tests.length * (c.tests.length - 1) / 2) =
          ∑ e ∈ positionPairs c.tests.length, pairScore sim hsymm c.tests e ∧
        (∃ low high, IsLeast (pairScore sim hsymm c.tests '' positionPairs c.tests.length) low ∧
          IsGreatest (pairScore sim hsymm c.tests '' positionPairs c.tests.length) high ∧
          c.score ∈ Set.Icc low high) ∧
        ∀ (sim' : String → String → ℚ) (hsymm' : ∀ a b, sim' a b = sim' b a),
          (ofKeys (fun a b => pure (sim' a b)) config keys state).1.map Cluster.tests =
              (ofKeys (fun a b => pure (sim a b)) config keys state).1.map Cluster.tests →
            (∀ e ∈ positionPairs c.tests.length,
              pairScore sim hsymm c.tests e ≤ pairScore sim' hsymm' c.tests e) →
            (∃ c' ∈ (ofKeys (fun a b => pure (sim' a b)) config keys state).1, c'.tests = c.tests) ∧
              ∀ c' ∈ (ofKeys (fun a b => pure (sim' a b)) config keys state).1,
                c'.tests = c.tests → c.type.strength ≤ c'.type.strength := by
  intro c hc
  have hlisted := List.mem_map_of_mem (f := Cluster.tests) hc
  obtain ⟨s, ⟨-, hsize⟩, rfl⟩ := mem_ofKeys.1 hc
  have htwo := hmin.trans hsize
  rw [← List.length_map (accepted keys).get] at htwo
  refine ⟨?_, score_ofGroup_mem_Icc hsymm config _ _ htwo, fun sim' hsymm' hgroups hmore => ⟨?_, ?_⟩⟩
  · rw [← card_positionPairs]
    exact score_ofGroup_mul_card hsymm config _ _
  · rw [← hgroups] at hlisted
    exact List.mem_map.1 hlisted
  · rintro c' hc' htests
    obtain ⟨s', -, rfl⟩ := mem_ofKeys.1 hc'
    have hscore := score_ofGroup_mono hsymm hsymm' config ((accepted keys).get s) _ hmore
    change (group _ s').map _ = _ at htests
    rw [htests]
    exact strength_ofGroup_mono config hscore

def gradedBy (first : ℚ) (a b : String) : ℚ := if a = "a::f" ∨ b = "a::f" then first else 3 / 4

theorem gradedBy_comm (first : ℚ) (a b : String) : gradedBy first a b = gradedBy first b a := by
  simp only [gradedBy, or_comm]

def gradedGroups (first : ℚ) : List (List TestId × ℚ × ClusterType) :=
  (ofKeys (fun a b => pure (gradedBy first a b)) ⟨⟨1, 4 / 5, 1 / 2⟩, 2, 10⟩ ["f:a", "f:b", "f:c"] ()).1.map
    fun c => (c.tests, c.score, c.type)

theorem gradedGroups_low :
    gradedGroups (1 / 2) = [([⟨"a", "f"⟩, ⟨"b", "f"⟩, ⟨"c", "f"⟩], 7 / 12, .similar)] := by
  decide +kernel

theorem gradedGroups_high :
    gradedGroups 1 = [([⟨"a", "f"⟩, ⟨"b", "f"⟩, ⟨"c", "f"⟩], 11 / 12, .near)] := by
  decide +kernel

theorem score_of_pairs_graded :
    ∃ c ∈ (ofKeys (fun a b => pure (gradedBy (1 / 2) a b)) ⟨⟨1, 4 / 5, 1 / 2⟩, 2, 10⟩
        ["f:a", "f:b", "f:c"] ()).1,
      c.type = .similar ∧
        c.score * (c.tests.length * (c.tests.length - 1) / 2) =
          ∑ e ∈ positionPairs c.tests.length, pairScore (gradedBy (1 / 2)) (gradedBy_comm _) c.tests e ∧
        ∃ c' ∈ (ofKeys (fun a b => pure (gradedBy 1 a b)) ⟨⟨1, 4 / 5, 1 / 2⟩, 2, 10⟩
            ["f:a", "f:b", "f:c"] ()).1,
          c'.tests = c.tests ∧ c'.type = .near ∧ c.type.strength ≤ c'.type.strength := by
  obtain ⟨c, hc, hlow⟩ := List.mem_map.1 (gradedGroups_low ▸ List.mem_singleton_self _)
  obtain ⟨c', hc', hhigh⟩ := List.mem_map.1 (gradedGroups_high ▸ List.mem_singleton_self _)
  simp only [Prod.mk.injEq] at hlow hhigh
  have htests : c'.tests = c.tests := hhigh.1.trans hlow.1.symm
  obtain ⟨hsum, -, hmono⟩ := score_of_pairs (gradedBy (1 / 2)) (gradedBy_comm _)
    ⟨⟨1, 4 / 5, 1 / 2⟩, 2, 10⟩ (by decide) ["f:a", "f:b", "f:c"] () c hc
  have hmore : ∀ e ∈ positionPairs c.tests.length,
      pairScore (gradedBy (1 / 2)) (gradedBy_comm _) c.tests e ≤
        pairScore (gradedBy 1) (gradedBy_comm _) c.tests e := by
    intro e _
    induction e using Sym2.ind with
    | _ i j =>
      simp only [pairScore, Sym2.lift_mk, gradedBy]
      split <;> norm_num
  obtain ⟨-, hstronger⟩ := hmono (gradedBy 1) (gradedBy_comm _) (by decide +kernel) hmore
  exact ⟨c, hc, hlow.2.2, hsum, c', hc', htests, hhigh.2.2, hstronger c' hc' htests⟩

end Cluster

end TestTwins
