import TestTwins.Proofs.KeyLaws
import TestTwins.Proofs.Leaders
import TestTwins.Proofs.ListedPairs

namespace TestTwins.Cluster

variable {σ α β K : Type}

/-- Started in a state that satisfies the invariant, a computation gives the value and keeps it. -/
def Returns (inv : σ → Prop) (m : StateM σ α) (v : α) : Prop :=
  ∀ s, inv s → (m s).1 = v ∧ inv (m s).2

namespace Returns

variable {inv : σ → Prop}

theorem pure (v : α) : Returns inv (pure v) v := fun _ hs => ⟨rfl, hs⟩

theorem bind {m : StateM σ α} {f : α → StateM σ β} {v : α} {w : β} (hm : Returns inv m v)
    (hf : Returns inv (f v) w) : Returns inv (m >>= f) w := by
  intro s hs
  obtain ⟨hv, hinv⟩ := hm s hs
  change (f (m s).1 (m s).2).1 = w ∧ inv (f (m s).1 (m s).2).2
  rw [hv]
  exact hf _ hinv

theorem mapM {f : α → StateM σ β} {g : α → β} {l : List α} (h : ∀ a ∈ l, Returns inv (f a) (g a)) :
    Returns inv (l.mapM f) (l.map g) := by
  induction l with
  | nil => exact .pure []
  | cons a l ih =>
    rw [List.mapM_cons]
    refine (h a List.mem_cons_self).bind ((ih fun b hb => h b (List.mem_cons_of_mem a hb)).bind ?_)
    exact .pure _

end Returns

def Keeps (inv : σ → Prop) (m : StateM σ α) : Prop := ∀ s, inv s → inv (m s).2

namespace Keeps

variable {inv : σ → Prop}

theorem pure (v : α) : Keeps inv (pure v) := fun _ hs => hs

theorem bind {m : StateM σ α} {f : α → StateM σ β} (hm : Keeps inv m) (hf : ∀ a, Keeps inv (f a)) :
    Keeps inv (m >>= f) :=
  fun s hs => hf (m s).1 (m s).2 (hm s hs)

theorem mapM {f : α → StateM σ β} {l : List α} (h : ∀ a ∈ l, Keeps inv (f a)) :
    Keeps inv (l.mapM f) := by
  induction l with
  | nil => exact .pure []
  | cons a l ih =>
    rw [List.mapM_cons]
    refine (h a List.mem_cons_self).bind fun _ => ?_
    exact (ih fun b hb => h b (List.mem_cons_of_mem a hb)).bind fun _ => .pure _

end Keeps

def Ends (post : α → Prop) (m : StateM σ α) : Prop := ∀ s, post (m s).1

namespace Ends

variable {post : α → Prop} {after : β → Prop}

theorem pure {v : α} (h : post v) : Ends post (pure v : StateM σ α) := fun _ => h

theorem bind {m : StateM σ α} {f : α → StateM σ β} (hm : Ends post m) (hf : ∀ a, post a → Ends after (f a)) :
    Ends after (m >>= f) :=
  fun s => hf (m s).1 (hm s) (m s).2

theorem any (m : StateM σ α) : Ends (fun _ => True) m := fun _ => trivial

end Ends

theorem Returns.ends {m : StateM σ α} {v : α} (h : Returns (fun _ => True) m v) : Ends (· = v) m :=
  fun s => (h s trivial).1

theorem Keeps.bind_of_ends {inv : σ → Prop} {post : α → Prop} {m : StateM σ α} {f : α → StateM σ β}
    (hm : Keeps inv m) (hpost : Ends post m) (hf : ∀ a, post a → Keeps inv (f a)) :
    Keeps inv (m >>= f) :=
  fun s hs => hf (m s).1 (hpost s) (m s).2 (hm s hs)

def Mirrors {τ : Type} (view : τ → σ) (m : StateM τ α) (m' : StateM σ α) : Prop :=
  ∀ s, ((m s).1, view (m s).2) = m' (view s)

namespace Mirrors

variable {τ : Type} {view : τ → σ}

theorem pure (a : α) : Mirrors view (pure a) (pure a) := fun _ => rfl

theorem bind {m : StateM τ α} {m' : StateM σ α} {f : α → StateM τ β} {f' : α → StateM σ β}
    (hm : Mirrors view m m') (hf : ∀ a, Mirrors view (f a) (f' a)) :
    Mirrors view (m >>= f) (m' >>= f') := by
  intro s
  change ((f (m s).1 (m s).2).1, view (f (m s).1 (m s).2).2) = f' (m' (view s)).1 (m' (view s)).2
  rw [← hm s]
  exact hf _ _

theorem mapM {f : α → StateM τ β} {f' : α → StateM σ β} (h : ∀ a, Mirrors view (f a) (f' a))
    (l : List α) : Mirrors view (l.mapM f) (l.mapM f') := by
  induction l with
  | nil => exact .pure []
  | cons a l ih =>
    rw [List.mapM_cons, List.mapM_cons]
    exact (h a).bind fun _ => ih.bind fun _ => .pure _

end Mirrors

/-- On the given tests, a scorer answers as a fixed score function does. -/
def Scores (inv : σ → Prop) (scorer : Scorer σ K) (sim : String → String → K) (tests : List TestId) :
    Prop :=
  ∀ a ∈ tests, ∀ b ∈ tests, Returns inv (scoreOf scorer a b) (sim a.similarityKey b.similarityKey)

theorem Scores.subset {inv : σ → Prop} {scorer : Scorer σ K} {sim : String → String → K}
    {tests l : List TestId} (h : Scores inv scorer sim tests) (hl : l ⊆ tests) :
    Scores inv scorer sim l :=
  fun a ha b hb => h a (hl ha) b (hl hb)

theorem scores_pure (sim : String → String → K) (tests : List TestId) :
    Scores (fun _ : σ => True) (fun a b => pure (sim a b)) sim tests :=
  fun _ _ _ _ => .pure _

variable [Scalar K]

def Joins (sim : String → String → K) (config : ClusterConfig K) (seed t : TestId) : Prop :=
  config.thresholds.similar ≤ sim seed.similarityKey t.similarityKey

instance (sim : String → String → K) (config : ClusterConfig K) (seed t : TestId) :
    Decidable (Joins sim config seed t) :=
  Scalar.decideLe _ _

def ofGroup (sim : String → String → K) (config : ClusterConfig K) (seed : TestId)
    (tests : List TestId) : Cluster K :=
  let score := mean ((pairsOf tests).map fun (a, b) => sim a.similarityKey b.similarityKey)
  let type := ClusterType.classify score config.thresholds
  ⟨clusterId seed, tests, score, type, seed, type.suggestion tests.length⟩

namespace Scores

variable {inv : σ → Prop} {scorer : Scorer σ K} {sim : String → String → K}

theorem build (config : ClusterConfig K) {seed : TestId} {others : List TestId}
    (h : Scores inv scorer sim (seed :: others)) :
    Returns inv (build scorer config seed others) (ofGroup sim config seed (seed :: others)) := by
  have hpairs : Returns inv ((pairsOf (seed :: others)).mapM fun (a, b) => scoreOf scorer a b)
      ((pairsOf (seed :: others)).map fun (a, b) => sim a.similarityKey b.similarityKey) := by
    apply Returns.mapM
    rintro ⟨a, b⟩ hab
    exact h a (mem_of_mem_pairsOf hab).1 b (mem_of_mem_pairsOf hab).2
  exact hpairs.bind (.pure _)

theorem divide (config : ClusterConfig K) {seed : TestId} {l : List TestId}
    (h : Scores inv scorer sim (seed :: l)) :
    Returns inv (divide scorer config seed l)
      (l.filter (Joins sim config seed ·), l.filter (¬ Joins sim config seed ·)) := by
  induction l with
  | nil => exact .pure _
  | cons t l ih =>
    have hrest := ih (h.subset (List.cons_subset_cons seed (List.subset_cons_self t l)))
    refine (h seed List.mem_cons_self t (List.mem_cons_of_mem seed List.mem_cons_self)).bind
      (hrest.bind ?_)
    by_cases ht : Joins sim config seed t
    · have ht' : config.thresholds.similar ≤ sim seed.similarityKey t.similarityKey := ht
      simp only [if_pos ht']
      simpa [List.filter_cons, ht] using Returns.pure _
    · have ht' : ¬ config.thresholds.similar ≤ sim seed.similarityKey t.similarityKey := ht
      simp only [if_neg ht']
      simpa [List.filter_cons, ht] using Returns.pure _

theorem round (config : ClusterConfig K) {seed : TestId} {l : List TestId} {fuel : Nat}
    {rest : List (Cluster K)} (h : Scores inv scorer sim (seed :: l))
    (hrest : Returns inv (rounds scorer config fuel (l.filter (¬ Joins sim config seed ·))) rest) :
    Returns inv (rounds scorer config (fuel + 1) (seed :: l))
      (if (seed :: l.filter (Joins sim config seed ·)).length < config.minSize then rest
        else ofGroup sim config seed (seed :: l.filter (Joins sim config seed ·)) :: rest) := by
  refine (h.divide config).bind ?_
  by_cases hsmall : (l.filter (Joins sim config seed ·)).length + 1 < config.minSize
  · simpa only [List.length_cons, if_pos hsmall] using hrest
  · simp only [List.length_cons, if_neg hsmall]
    have htaken : Scores inv scorer sim (seed :: l.filter (Joins sim config seed ·)) :=
      h.subset (List.cons_subset_cons seed (List.filter_subset_self l))
    exact (htaken.build config).bind (hrest.bind (.pure _))

end Scores

theorem ends_divide (scorer : Scorer σ K) (config : ClusterConfig K) (seed : TestId) (l : List TestId) :
    Ends (fun r => (r.1 ++ r.2).Perm l) (divide scorer config seed l) := by
  induction l with
  | nil => exact .pure (.refl _)
  | cons t l ih =>
    refine (Ends.any _).bind fun score _ => ih.bind fun r h => ?_
    change Ends _ (Pure.pure
      (if config.thresholds.similar ≤ score then (t :: r.1, r.2) else (r.1, t :: r.2)))
    split
    · exact .pure (h.cons t)
    · exact .pure (List.perm_middle.trans (h.cons t))

def accepted (keys : List String) : List TestId := keys.filterMap TestId.ofFeatureKey?

section Keeps

variable {inv : σ → Prop} {scorer : Scorer σ K} {tests : List TestId}
  (h : ∀ a ∈ tests, ∀ b ∈ tests, Keeps inv (scoreOf scorer a b)) (config : ClusterConfig K)

include h

theorem keeps_build {seed : TestId} {others : List TestId} (hsub : seed :: others ⊆ tests) :
    Keeps inv (build scorer config seed others) := by
  refine (Keeps.mapM ?_).bind fun _ => .pure _
  rintro ⟨a, b⟩ hab
  exact h a (hsub (mem_of_mem_pairsOf hab).1) b (hsub (mem_of_mem_pairsOf hab).2)

theorem keeps_divide {seed : TestId} {l : List TestId} (hsub : seed :: l ⊆ tests) :
    Keeps inv (divide scorer config seed l) := by
  obtain ⟨hseed, hl⟩ := List.cons_subset.1 hsub
  induction l with
  | nil => exact .pure _
  | cons t l ih =>
    obtain ⟨ht, hrest⟩ := List.cons_subset.1 hl
    refine (h seed hseed t ht).bind fun _ => ?_
    exact (ih (List.cons_subset.2 ⟨hseed, hrest⟩) hrest).bind fun _ => .pure _

theorem keeps_rounds (fuel : Nat) {l : List TestId} (hsub : l ⊆ tests) :
    Keeps inv (rounds scorer config fuel l) := by
  induction fuel generalizing l with
  | zero => exact .pure []
  | succ fuel ih =>
    cases l with
    | nil => exact .pure []
    | cons seed l =>
      refine (keeps_divide h config hsub).bind_of_ends (ends_divide scorer config seed l)
        fun (taken, free) hperm => ?_
      have hall : seed :: (taken ++ free) ⊆ tests := List.Subset.trans (hperm.cons seed).subset hsub
      obtain ⟨hseed, hparts⟩ := List.cons_subset.1 hall
      obtain ⟨htaken, hfree⟩ := List.append_subset.1 hparts
      change Keeps inv (if taken.length + 1 < config.minSize then _ else _)
      split
      · exact ih hfree
      · exact (keeps_build h config (List.cons_subset.2 ⟨hseed, htaken⟩)).bind fun _ =>
          (ih hfree).bind fun _ => .pure _

end Keeps

theorem keeps_ofKeys_of_accepted {inv : σ → Prop} {scorer : Scorer σ K} {keys : List String}
    (h : ∀ a ∈ accepted keys, ∀ b ∈ accepted keys, Keeps inv (scoreOf scorer a b))
    (config : ClusterConfig K) : Keeps inv (ofKeys scorer config keys) :=
  keeps_rounds h config _ (List.Subset.refl _)

theorem keeps_ofKeys {inv : σ → Prop} {scorer : Scorer σ K} (h : ∀ a b, Keeps inv (scorer a b))
    (config : ClusterConfig K) (keys : List String) : Keeps inv (ofKeys scorer config keys) :=
  keeps_ofKeys_of_accepted (fun _ _ _ _ => h _ _) config

section Positions

open Leader

def Near (sim : String → String → K) (config : ClusterConfig K) (ids : List TestId)
    (j i : Fin ids.length) : Prop :=
  Joins sim config (ids.get j) (ids.get i)

instance (sim : String → String → K) (config : ClusterConfig K) (ids : List TestId)
    (j i : Fin ids.length) : Decidable (Near sim config ids j i) :=
  inferInstanceAs (Decidable (Joins sim config _ _))

def IsReported (sim : String → String → K) (config : ClusterConfig K) (ids : List TestId)
    (s : Fin ids.length) : Prop :=
  IsSeed (Near sim config ids) s ∧ config.minSize ≤ (group (Near sim config ids) s).length

open Classical in
/-- The clusters of listed tests by leaders: one for each large enough group, in order of the seeds. -/
noncomputable def ofLeaders (sim : String → String → K) (config : ClusterConfig K)
    (ids : List TestId) : List (Cluster K) :=
  ((List.finRange ids.length).filter fun s => IsReported sim config ids s).map fun s =>
    ofGroup sim config (ids.get s) ((group (Near sim config ids) s).map ids.get)

variable {inv : σ → Prop} {scorer : Scorer σ K} {sim : String → String → K}

theorem map_get_subset (ids : List α) (l : List (Fin ids.length)) : l.map ids.get ⊆ ids := by
  intro t ht
  obtain ⟨i, -, rfl⟩ := List.mem_map.1 ht
  exact ids.get_mem i

theorem map_get_group {config : ClusterConfig K} {ids : List TestId} {b : Fin ids.length}
    (h : group (Near sim config ids) b =
      b :: (scanned (Near sim config ids) b).filter (Near sim config ids b ·)) :
    ids.get b :: ((scanned (Near sim config ids) b).map ids.get).filter
        (Joins sim config (ids.get b) ·) = (group (Near sim config ids) b).map ids.get := by
  rw [h, List.map_cons, List.filter_map]
  rfl

theorem Scores.rounds (config : ClusterConfig K) {ids : List TestId} (h : Scores inv scorer sim ids)
    {fuel : Nat} (hfuel : ids.length ≤ fuel) :
    Returns inv (rounds scorer config fuel ids) (ofLeaders sim config ids) := by
  classical
  suffices hall : ∀ fuel, (List.finRange ids.length).length ≤ fuel →
      Returns inv (Cluster.rounds scorer config fuel ((List.finRange ids.length).map ids.get))
        (ofLeaders sim config ids) by
    simpa only [List.map_get_finRange] using hall fuel (by rwa [List.length_finRange])
  rw [ofLeaders]
  refine seeds_induction (Near sim config ids) (motive := fun free suf =>
    ∀ fuel, free.length ≤ fuel → Returns inv (Cluster.rounds scorer config fuel (free.map ids.get))
      ((suf.filter fun s => IsReported sim config ids s).map fun s =>
        ofGroup sim config (ids.get s) ((group (Near sim config ids) s).map ids.get))) ?_ ?_ ?_
  · intro fuel _
    cases fuel <;> exact .pure []
  · intro b suf hb hgroup hrest fuel hfuel
    cases fuel with
    | zero => cases hfuel
    | succ fuel =>
      have hlength := (List.length_filter_le (¬ Near sim config ids b ·) _).trans
        (Nat.le_of_succ_le_succ hfuel)
      have hround := Scores.round config (h.subset (map_get_subset ids (b :: scanned _ b)))
        (by rw [List.filter_map]; exact hrest fuel hlength)
      rw [map_get_group hgroup, List.length_map] at hround
      by_cases hsize : config.minSize ≤ (group (Near sim config ids) b).length
      · have hreported : IsReported sim config ids b := ⟨hb, hsize⟩
        rw [List.filter_cons_of_pos (by simpa using hreported)]
        rwa [if_neg (Nat.not_lt.2 hsize)] at hround
      · have hnot : ¬ IsReported sim config ids b := fun hr => hsize hr.2
        rw [List.filter_cons_of_neg (by simpa using hnot)]
        rwa [if_pos (Nat.not_le.1 hsize)] at hround
  · intro b suf free hb hrest fuel hfuel
    have hnot : ¬ IsReported sim config ids b := fun hr => hb hr.1
    rw [List.filter_cons_of_neg (by simpa using hnot)]
    exact hrest fuel hfuel

theorem Scores.ofKeys (config : ClusterConfig K) {keys : List String}
    (h : Scores inv scorer sim (accepted keys)) :
    Returns inv (ofKeys scorer config keys) (ofLeaders sim config (accepted keys)) :=
  h.rounds config (Nat.le_refl _)

theorem mem_ofLeaders {config : ClusterConfig K} {ids : List TestId} {c : Cluster K} :
    c ∈ ofLeaders sim config ids ↔ ∃ s, IsReported sim config ids s ∧
      ofGroup sim config (ids.get s) ((group (Near sim config ids) s).map ids.get) = c := by
  simp [ofLeaders]

theorem mem_of_mem_ofLeaders {config : ClusterConfig K} {ids : List TestId} {c : Cluster K}
    (hc : c ∈ ofLeaders sim config ids) {t : TestId} (ht : t ∈ c.tests) : t ∈ ids := by
  obtain ⟨s, -, rfl⟩ := mem_ofLeaders.1 hc
  exact map_get_subset ids _ ht

theorem featureKey_mem_of_mem_accepted {keys : List String} {t : TestId} (h : t ∈ accepted keys) :
    t.featureKey ∈ keys ∧ TestId.ofFeatureKey? t.featureKey = some t := by
  obtain ⟨key, hmem, hkey⟩ := List.mem_filterMap.1 h
  rw [TestId.featureKey_of_ofFeatureKey? hkey]
  exact ⟨hmem, hkey⟩

theorem nodup_accepted {keys : List String} (h : keys.Nodup) : (accepted keys).Nodup := by
  apply h.filterMap
  intro key key' t ht ht'
  rw [← TestId.featureKey_of_ofFeatureKey? ht, ← TestId.featureKey_of_ofFeatureKey? ht']

/-- By any score function, the clusters of a list of keys are those of its leaders; every readable key
is in one group and so in one cluster at most, and no other key is in any. -/
theorem ofKeys_eq_ofLeaders (sim : String → String → K) (config : ClusterConfig K)
    (keys : List String) (state : σ) :
    (ofKeys (fun a b => pure (sim a b)) config keys state).1 = ofLeaders sim config (accepted keys) ∧
      (∀ i, ∃! s, IsSeed (Near sim config (accepted keys)) s ∧
        i ∈ group (Near sim config (accepted keys)) s) ∧
      (∀ s s', IsReported sim config (accepted keys) s → IsReported sim config (accepted keys) s' →
        ∀ i, i ∈ group (Near sim config (accepted keys)) s →
          i ∈ group (Near sim config (accepted keys)) s' → s = s') ∧
      ∀ c ∈ (ofKeys (fun a b => pure (sim a b)) config keys state).1, ∀ t ∈ c.tests,
        t.featureKey ∈ keys ∧ TestId.ofFeatureKey? t.featureKey = some t := by
  have hclusters := ((scores_pure (σ := σ) sim (accepted keys)).ofKeys config state trivial).1
  refine ⟨hclusters, existsUnique_group _, ?_, ?_⟩
  · intro s s' hs hs' i hi hi'
    exact (existsUnique_group _ i).unique ⟨hs.1, hi⟩ ⟨hs'.1, hi'⟩
  · rw [hclusters]
    intro c hc t ht
    exact featureKey_mem_of_mem_accepted (mem_of_mem_ofLeaders hc ht)

end Positions

end TestTwins.Cluster
