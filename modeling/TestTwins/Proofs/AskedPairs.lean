import Mathlib.Data.List.Nodup
import Mathlib.Data.List.Perm.Basic
import TestTwins.Proofs.Questions

namespace TestTwins

namespace Leader

variable {n : Nat} {near : Fin n → Fin n → Prop}

theorem pairwise_lt_group (s : Fin n) : (group near s).Pairwise (· < ·) :=
  (List.pairwise_lt_finRange n).filter _

theorem self_mem_group (s : Fin n) : s ∈ group near s := mem_group.2 (.inl rfl)

theorem mem_scanned_of_mem_group {s i : Fin n} (hi : i ∈ group near s) (hne : i ≠ s) :
    i ∈ scanned near s := by
  obtain heq | ⟨-, ⟨hlt, -, -⟩, hleast⟩ := mem_group.1 hi
  · exact absurd heq hne
  · refine mem_scanned.2 ⟨hlt, fun j hj hseed hnear => ?_⟩
    exact absurd (hleast ⟨hj.trans hlt, hseed, hnear⟩) (not_le.2 hj)

theorem IsSeed.eq_of_mem_group {s i : Fin n} (hi : IsSeed near i) (h : i ∈ group near s) : i = s := by
  obtain heq | ⟨hnot, -⟩ := mem_group.1 h
  · exact heq
  · exact absurd hi hnot

variable (near)

open Classical in
noncomputable def seeds : List (Fin n) := (List.finRange n).filter fun s => IsSeed near s

noncomputable def comparisons (s : Fin n) : List (Fin n × Fin n) := (scanned near s).map (s, ·)

open Classical in
noncomputable def memberPairs (reported : Fin n → Prop) (s : Fin n) : List (Fin n × Fin n) :=
  if reported s then pairsOf (group near s) else []

noncomputable def asked (reported : Fin n → Prop) : List (Fin n × Fin n) :=
  (seeds near).flatMap fun s => comparisons near s ++ memberPairs near reported s

variable {near} {reported : Fin n → Prop} {i j : Fin n}

@[simp] theorem mem_seeds {s : Fin n} : s ∈ seeds near ↔ IsSeed near s := by simp [seeds]

theorem nodup_seeds : (seeds near).Nodup := (List.nodup_finRange n).filter _

theorem mem_comparisons {s : Fin n} : (i, j) ∈ comparisons near s ↔ s = i ∧ j ∈ scanned near s := by
  simp [comparisons, eq_comm, and_comm]

theorem mem_memberPairs {s : Fin n} : (i, j) ∈ memberPairs near reported s ↔
    reported s ∧ i ∈ group near s ∧ j ∈ group near s ∧ i < j := by
  rw [memberPairs]
  split
  · rename_i hs
    simp only [mem_pairsOf_iff (pairwise_lt_group s), hs, true_and]
  · rename_i hs
    simp [hs]

variable (near) in
theorem nodup_comparisons : ((seeds near).flatMap (comparisons near)).Nodup := by
  rw [List.nodup_flatMap]
  refine ⟨fun s _ => ((List.nodup_finRange n).filter _).map (Prod.mk_right_injective s), ?_⟩
  refine nodup_seeds.imp fun {s s'} hne => ?_
  rintro ⟨i, j⟩ hp hp'
  exact hne ((mem_comparisons.1 hp).1.trans (mem_comparisons.1 hp').1.symm)

variable (near reported) in
theorem nodup_memberPairs : ((seeds near).flatMap (memberPairs near reported)).Nodup := by
  rw [List.nodup_flatMap]
  constructor
  · intro s _
    rw [memberPairs]
    split
    · exact nodup_pairsOf ((List.nodup_finRange n).filter _)
    · exact .nil
  · refine List.Pairwise.imp_of_mem ?_ nodup_seeds
    rintro s s' hs hs' hne ⟨i, j⟩ hp hp'
    exact hne ((existsUnique_group near i).unique ⟨mem_seeds.1 hs, (mem_memberPairs.1 hp).2.1⟩
      ⟨mem_seeds.1 hs', (mem_memberPairs.1 hp').2.1⟩)

theorem asked_perm : (asked near reported).Perm
    ((seeds near).flatMap (comparisons near) ++ (seeds near).flatMap (memberPairs near reported)) :=
  (List.flatMap_append_perm _ _ _).symm

theorem mem_asked : (i, j) ∈ asked near reported ↔
    (IsSeed near i ∧ j ∈ scanned near i) ∨
      ∃ s, IsSeed near s ∧ reported s ∧ i ∈ group near s ∧ j ∈ group near s ∧ i < j := by
  simp only [asked_perm.mem_iff, List.mem_append, List.mem_flatMap, mem_seeds, mem_comparisons,
    mem_memberPairs]
  refine or_congr_left ⟨?_, fun h => ⟨i, h.1, rfl, h.2⟩⟩
  rintro ⟨s, hs, rfl, hj⟩
  exact ⟨hs, hj⟩

theorem count_asked_le_two (p : Fin n × Fin n) : (asked near reported).count p ≤ 2 := by
  rw [asked_perm.count_eq, List.count_append]
  exact Nat.add_le_add (List.nodup_iff_count_le_one.1 (nodup_comparisons near) p)
    (List.nodup_iff_count_le_one.1 (nodup_memberPairs near reported) p)

theorem count_asked_eq_two_iff : (asked near reported).count (i, j) = 2 ↔
    IsSeed near i ∧ reported i ∧ j ∈ group near i ∧ j ≠ i := by
  have hcomparisons := List.nodup_iff_count_le_one.1 (nodup_comparisons near) (i, j)
  have hmembers := List.nodup_iff_count_le_one.1 (nodup_memberPairs near reported) (i, j)
  have hboth : (asked near reported).count (i, j) = 2 ↔
      (i, j) ∈ (seeds near).flatMap (comparisons near) ∧
        (i, j) ∈ (seeds near).flatMap (memberPairs near reported) := by
    rw [asked_perm.count_eq, List.count_append, ← List.count_pos_iff, ← List.count_pos_iff]
    omega
  simp only [hboth, List.mem_flatMap, mem_seeds, mem_comparisons, mem_memberPairs]
  constructor
  · rintro ⟨⟨_, hi, rfl, -⟩, s, -, hreported, his, hjs, hlt⟩
    obtain rfl := hi.eq_of_mem_group his
    exact ⟨hi, hreported, hjs, hlt.ne'⟩
  · rintro ⟨hi, hreported, hj, hne⟩
    have hscanned := mem_scanned_of_mem_group hj hne
    exact ⟨⟨i, hi, rfl, hscanned⟩, i, hi, hreported, self_mem_group i, hj, (mem_scanned.1 hscanned).1⟩

theorem lt_of_mem_asked (h : (i, j) ∈ asked near reported) : i < j := by
  rcases mem_asked.1 h with ⟨-, hj⟩ | ⟨_, -, -, -, -, hlt⟩
  · exact (mem_scanned.1 hj).1
  · exact hlt

end Leader

namespace Cluster

variable {σ α β K : Type}

def keysOf (a b : TestId) : String × String := (a.similarityKey, b.similarityKey)

def Question.keys (q : Question σ) : String × String := (q.first, q.second)

def Asks (m : StateM (σ × List (Question σ)) α) (pairs : List (String × String)) : Prop :=
  ∀ s, (m s).2.2.map Question.keys = s.2.map Question.keys ++ pairs

namespace Asks

variable {m : StateM (σ × List (Question σ)) α} {f : α → StateM (σ × List (Question σ)) β}
  {pairs more : List (String × String)}

theorem pure (a : α) : Asks (σ := σ) (pure a) [] := fun _ => (List.append_nil _).symm

theorem bind_of_ends {post : α → Prop} (hm : Asks m pairs) (hpost : Ends post m)
    (hf : ∀ a, post a → Asks (f a) more) : Asks (m >>= f) (pairs ++ more) := by
  intro s
  change ((f (m s).1 (m s).2).2.2).map Question.keys = _
  rw [hf _ (hpost s), hm, List.append_assoc]

theorem bind (hm : Asks m pairs) (hf : ∀ a, Asks (f a) more) : Asks (m >>= f) (pairs ++ more) :=
  hm.bind_of_ends (.any m) fun a _ => hf a

theorem bind_silent (hm : Asks m pairs) (hf : ∀ a, Asks (f a) []) : Asks (m >>= f) pairs :=
  List.append_nil pairs ▸ hm.bind hf

theorem mapM {f : α → StateM (σ × List (Question σ)) β} {g : α → String × String}
    (h : ∀ a, Asks (f a) [g a]) (l : List α) : Asks (l.mapM f) (l.map g) := by
  induction l with
  | nil => exact .pure []
  | cons a l ih =>
    rw [List.mapM_cons]
    exact (h a).bind fun _ => ih.bind_silent fun _ => .pure _

end Asks

theorem asks_scoreOf (scorer : Scorer σ K) (a b : TestId) :
    Asks (scoreOf (logged scorer) a b) [keysOf a b] := by
  intro s
  change (s.2 ++ [_]).map Question.keys = _
  rw [List.map_append]
  rfl

variable [Scalar K]

theorem asks_build (scorer : Scorer σ K) (config : ClusterConfig K) (seed : TestId)
    (others : List TestId) :
    Asks (build (logged scorer) config seed others)
      ((pairsOf (seed :: others)).map fun p => keysOf p.1 p.2) :=
  (Asks.mapM (fun p : TestId × TestId => asks_scoreOf scorer p.1 p.2) _).bind_silent fun _ => .pure _

theorem asks_divide (scorer : Scorer σ K) (config : ClusterConfig K) (seed : TestId) (l : List TestId) :
    Asks (divide (logged scorer) config seed l) (l.map (keysOf seed)) := by
  induction l with
  | nil => exact .pure _
  | cons t l ih => exact (asks_scoreOf scorer seed t).bind fun _ => ih.bind_silent fun _ => .pure _

section Rounds

variable (sim : String → String → K) (config : ClusterConfig K)

omit [Scalar K] in
theorem scores_logged (tests : List TestId) :
    Scores (fun _ : σ × List (Question σ) => True) (logged fun a b => pure (sim a b)) sim tests :=
  fun _ _ _ _ _ _ => ⟨rfl, trivial⟩

theorem asks_round (seed : TestId) (l : List TestId) {fuel : Nat} {rest : List (String × String)}
    (hrest : Asks (σ := σ) (rounds (logged fun a b => pure (sim a b)) config fuel
      (l.filter (¬ Joins sim config seed ·))) rest) :
    Asks (σ := σ) (rounds (logged fun a b => pure (sim a b)) config (fuel + 1) (seed :: l))
      ((l.map (keysOf seed) ++
        if config.minSize ≤ (seed :: l.filter (Joins sim config seed ·)).length then
          (pairsOf (seed :: l.filter (Joins sim config seed ·))).map fun p => keysOf p.1 p.2
        else []) ++ rest) := by
  have hdivide := ((scores_logged (σ := σ) sim (seed :: l)).divide config).ends
  rw [List.append_assoc]
  refine (asks_divide _ config seed l).bind_of_ends hdivide ?_
  rintro _ rfl
  by_cases hsmall : (l.filter (Joins sim config seed ·)).length + 1 < config.minSize
  · simpa only [List.length_cons, if_pos hsmall, if_neg (Nat.not_le.2 hsmall), List.nil_append] using hrest
  · simp only [List.length_cons, if_neg hsmall, if_pos (Nat.not_lt.1 hsmall)]
    exact (asks_build _ config _ _).bind fun _ => hrest.bind_silent fun _ => .pure _

open Leader

def keysAt (ids : List TestId) (p : Fin ids.length × Fin ids.length) : String × String :=
  keysOf (ids.get p.1) (ids.get p.2)

theorem map_comparisons (ids : List TestId) (s : Fin ids.length) :
    (comparisons (Near sim config ids) s).map (keysAt ids) =
      ((scanned (Near sim config ids) s).map ids.get).map (keysOf (ids.get s)) := by
  simp [comparisons, keysAt]

theorem map_memberPairs {ids : List TestId} {s : Fin ids.length}
    (hs : IsSeed (Near sim config ids) s) :
    (memberPairs (Near sim config ids) (IsReported sim config ids) s).map (keysAt ids) =
      if config.minSize ≤ (group (Near sim config ids) s).length then
        (pairsOf ((group (Near sim config ids) s).map ids.get)).map fun p => keysOf p.1 p.2
      else [] := by
  by_cases hsize : config.minSize ≤ (group (Near sim config ids) s).length
  · have hreported : IsReported sim config ids s := ⟨hs, hsize⟩
    rw [memberPairs, if_pos hreported, if_pos hsize, pairsOf_map, List.map_map]
    rfl
  · have hnot : ¬ IsReported sim config ids s := fun hr => hsize hr.2
    rw [memberPairs, if_neg hnot, if_neg hsize, List.map_nil]

theorem asks_rounds (ids : List TestId) {fuel : Nat} (hfuel : ids.length ≤ fuel) :
    Asks (σ := σ) (rounds (logged fun a b => pure (sim a b)) config fuel ids)
      ((asked (Near sim config ids) (IsReported sim config ids)).map (keysAt ids)) := by
  classical
  suffices hall : ∀ fuel, (List.finRange ids.length).length ≤ fuel →
      Asks (σ := σ) (rounds (logged fun a b => pure (sim a b)) config fuel
        ((List.finRange ids.length).map ids.get))
        ((asked (Near sim config ids) (IsReported sim config ids)).map (keysAt ids)) by
    simpa only [List.map_get_finRange] using hall fuel (by rwa [List.length_finRange])
  rw [asked, seeds]
  refine seeds_induction (Near sim config ids) (motive := fun free suf => ∀ fuel, free.length ≤ fuel →
    Asks (σ := σ) (rounds (logged fun a b => pure (sim a b)) config fuel (free.map ids.get))
      (((suf.filter fun s => IsSeed (Near sim config ids) s).flatMap fun s =>
        comparisons (Near sim config ids) s ++
          memberPairs (Near sim config ids) (IsReported sim config ids) s).map (keysAt ids))) ?_ ?_ ?_
  · intro fuel _
    cases fuel <;> exact .pure []
  · intro b suf hb hgroup hrest fuel hfuel
    cases fuel with
    | zero => cases hfuel
    | succ fuel =>
      have hlength := (List.length_filter_le (¬ Near sim config ids b ·) _).trans
        (Nat.le_of_succ_le_succ hfuel)
      have hround := asks_round sim config (ids.get b) ((scanned (Near sim config ids) b).map ids.get)
        (by rw [List.filter_map]; exact hrest fuel hlength)
      rw [map_get_group hgroup, List.length_map, ← map_comparisons, ← map_memberPairs sim config hb,
        ← List.map_append, ← List.map_append] at hround
      rw [List.filter_cons_of_pos (by simpa using hb), List.flatMap_cons]
      exact hround
  · intro b suf free hb hrest fuel hfuel
    rw [List.filter_cons_of_neg (by simpa using hb)]
    exact hrest fuel hfuel

/-- Whatever the scores are, the pairs that a scorer is asked for while keys are grouped are pairs of two
readable keys, the earlier one first. No two positions are asked for more than twice; twice are asked a
reported seed and another member of its group, and no others; and all members of a reported group are
asked for in pairs. -/
theorem ofKeys_asks (keys : List String) (state : σ) :
    let run := ofKeys (logged fun a b => pure (sim a b)) config keys (state, [])
    let pairs := asked (Near sim config (accepted keys)) (IsReported sim config (accepted keys))
    run.1 = ofLeaders sim config (accepted keys) ∧
      run.2.2.map Question.keys = pairs.map (keysAt (accepted keys)) ∧
      (∀ i j, (i, j) ∈ pairs → i < j) ∧
      (∀ i j, pairs.count (i, j) ≤ 2) ∧
      (∀ i j, pairs.count (i, j) = 2 ↔ IsReported sim config (accepted keys) i ∧
        j ∈ group (Near sim config (accepted keys)) i ∧ j ≠ i) ∧
      ∀ s, IsReported sim config (accepted keys) s →
        ∀ i ∈ group (Near sim config (accepted keys)) s,
          ∀ j ∈ group (Near sim config (accepted keys)) s, i < j → 1 ≤ pairs.count (i, j) := by
  intro run pairs
  have hclusters := (scores_logged (σ := σ) sim (accepted keys)).ofKeys config (state, []) trivial
  have htrace : run.2.2.map Question.keys = [] ++ pairs.map (keysAt (accepted keys)) :=
    asks_rounds sim config (accepted keys) (Nat.le_refl _) (state, [])
  refine ⟨hclusters.1, htrace, fun _ _ => lt_of_mem_asked, fun i j => count_asked_le_two (i, j), ?_, ?_⟩
  · intro i j
    rw [count_asked_eq_two_iff, ← and_assoc]
    exact and_congr_left fun _ => ⟨And.right, fun hr => ⟨hr.1, hr⟩⟩
  · intro s hs i hi j hj hij
    exact List.count_pos_iff.2 (mem_asked.2 (.inr ⟨s, hs.1, hs, hi, hj, hij⟩))

example :
    (ofKeys (logged fun a b => pure (if a = "c::f" ∨ b = "c::f" then 0 else 1 : Rat)) ⟨⟨1, 1, 1⟩, 2, 10⟩
        ["f:a", "f:b", "f:c"] ((), [])).2.2.map Question.keys =
      [("a::f", "b::f"), ("a::f", "c::f"), ("a::f", "b::f")] := by decide +kernel

end Rounds

end Cluster

end TestTwins
