import TestTwins.Proofs.Clustering
import TestTwins.Proofs.PairScores

namespace TestTwins

namespace Signature

/-- The same features but for the name of the function, which is a token of the shape. -/
structure AgreeButName (x y : Signature) : Prop where
  mocks : x.mocks = y.mocks
  exceptions : x.exceptions = y.exceptions
  shape : ∀ t, ¬ "func:".toList <+: t.toList → (t ∈ tokens x.shape ↔ t ∈ tokens y.shape)

theorem AgreeButName.of_tokens {x y : Signature} (f g : String) (rest : List String)
    (hmocks : x.mocks = y.mocks) (hexceptions : x.exceptions = y.exceptions)
    (hx : tokens x.shape = f :: rest) (hy : tokens y.shape = g :: rest)
    (hf : "func:".toList <+: f.toList) (hg : "func:".toList <+: g.toList) : x.AgreeButName y where
  mocks := hmocks
  exceptions := hexceptions
  shape t ht := by
    have htf : t ≠ f := fun h => ht (h ▸ hf)
    have htg : t ≠ g := fun h => ht (h ▸ hg)
    simp only [hx, hy, List.mem_cons, htf, htg, false_or]

structure Fits (x : Signature) : Prop where
  mocks : x.mocks < Word.count
  exceptions : x.exceptions.length < Word.count
  shape : x.shape.length < Word.count

theorem AgreeButName.shapeSet {x y : Signature} (h : x.AgreeButName y) :
    shapeSet x.shape = shapeSet y.shape := by
  apply OrderedSet.ext_mem
  intro t
  simp only [TestTwins.shapeSet, tokenSet, OrderedSet.mem_filter, OrderedSet.mem_ofList,
    Bool.not_eq_true', Bool.eq_false_iff, ne_eq, List.isPrefixOf_iff_prefix]
  constructor
  · rintro ⟨ht, hname⟩
    exact ⟨(h.shape t hname).1 ht, hname⟩
  · rintro ⟨ht, hname⟩
    exact ⟨(h.shape t hname).2 ht, hname⟩

end Signature

namespace Engine

variable {K : Type}

structure Copies (e : Engine K) (a b : TestId) : Prop where
  covered : ∃ r s, e.coverage.get? a.similarityKey = some r ∧
    e.coverage.get? b.similarityKey = some s ∧ r.covered = s.covered ∧ r.covered.size < Word.count
  features : ∃ x y, e.features.get? a.featureKey = some x ∧ e.features.get? b.featureKey = some y ∧
    x.AgreeButName y ∧ x.Fits

theorem featuresOf?_eq {e : Engine K} {t : TestId} {x : Signature} (ht : t.WellFormed)
    (hx : e.features.get? t.featureKey = some x) : e.featuresOf? t.similarityKey = some x := by
  rw [featuresOf?, ht.toFeatureKey?, Option.map_some, hx, Option.getD_some]

variable [Scalar K]

namespace Copies

variable {e : Engine K} {a b : TestId}

theorem compute_right (h : e.Copies a b) (ha : a.WellFormed) (hb : b.WellFormed) (c : String) :
    e.compute c a.similarityKey = e.compute c b.similarityKey := by
  obtain ⟨r, s, hr, hs, hcovered, -⟩ := h.covered
  obtain ⟨x, y, hx, hy, hagree, -⟩ := h.features
  have hlines : e.coverageScore c a.similarityKey = e.coverageScore c b.similarityKey := by
    simp only [coverageScore, hr, hs]
    cases e.coverage.get? c with
    | none => rfl
    | some q => simp only [hcovered]
  simp only [compute, hlines, featuresOf?_eq ha hx, featuresOf?_eq hb hy]
  cases e.featuresOf? c with
  | none => rfl
  | some z => simp only [hagree.mocks, hagree.exceptions, shapeSimilarity, hagree.shapeSet]

theorem compute_self [LawfulRatio K] (h : e.Copies a b) (ha : a.WellFormed) (hb : b.WellFormed) :
    (e.compute a.similarityKey b.similarityKey).overall =
      e.weights.overall Scalar.one Scalar.one Scalar.one Scalar.one := by
  rw [← h.compute_right ha hb]
  obtain ⟨r, s, hr, -, -, hsize⟩ := h.covered
  obtain ⟨x, y, hx, -, -, hfits⟩ := h.features
  have hlines : e.coverageScore a.similarityKey a.similarityKey = Scalar.one := by
    simp only [coverageScore, hr, jaccard_self hsize]
  have hexceptions : (tokenJaccard x.exceptions x.exceptions : K) = Scalar.one :=
    jaccard_self ((size_tokenSet_le _).trans_lt hfits.exceptions)
  have hshape : (shapeSimilarity x.shape x.shape : K) = Scalar.one :=
    jaccard_self ((size_shapeSet_le _).trans_lt hfits.shape)
  simp only [compute, hlines, featuresOf?_eq ha hx, mockSimilarity_self hfits.mocks, hexceptions, hshape]

end Copies

/-- While tests are being grouped, the engine answers all questions about them as it did at first. -/
def Steady (e : Engine K) (tests : List TestId) (e' : Engine K) : Prop :=
  ∀ a ∈ tests, ∀ b ∈ tests, (e'.compare a.similarityKey b.similarityKey).1 =
    (e.compare a.similarityKey b.similarityKey).1

theorem Steady.compare_snd {e e' : Engine K} {tests : List TestId} (h : e.Steady tests e')
    (hwf : ∀ t ∈ tests, t.WellFormed) {a b : TestId} (ha : a ∈ tests) (hb : b ∈ tests) :
    e.Steady tests (e'.compare a.similarityKey b.similarityKey).2 := by
  have hkey : ∀ t ∈ tests, IsTestKey t.similarityKey := fun t ht => ⟨t, hwf t ht, rfl⟩
  intro c hc d hd
  have hinj := pairKey_inj (hkey a ha) (hkey b hb) (hkey c hc) (hkey d hd)
  rw [e'.compare_compare hinj.1]
  exact h c hc d hd

theorem scores_similarity (e : Engine K) {tests : List TestId} (h : ∀ t ∈ tests, t.WellFormed) :
    Cluster.Scores (e.Steady tests) Engine.similarity (fun a b => (e.similarity a b).1) tests :=
  fun a ha b hb _ hsteady =>
    ⟨congrArg Scores.overall (hsteady a ha b hb), hsteady.compare_snd h ha hb⟩

theorem ofKeys_similarity (e : Engine K) (config : ClusterConfig K) {keys : List String}
    (hwf : ∀ t ∈ Cluster.accepted keys, t.WellFormed) :
    (Cluster.ofKeys Engine.similarity config keys e).1 =
      Cluster.ofLeaders (fun a b => (e.similarity a b).1) config (Cluster.accepted keys) :=
  ((e.scores_similarity hwf).ofKeys config e fun _ _ _ _ => rfl).1

theorem similarity_of_unmistaken (w : Weights K) (t : Thresholds K) {ops : List (Op K)}
    {tests : List TestId} (h : UnmistakenAmong ops tests) {a b : TestId} (ha : a ∈ tests)
    (hb : b ∈ tests) (hab : a ≠ b) :
    (((new w t).run ops).similarity a.similarityKey b.similarityKey).1 =
      (((new w t).run ops).compute a.similarityKey b.similarityKey).overall :=
  congrArg Scores.overall ((recalls_run_new w t ops).compare_of_unmistaken (h a ha b hb hab))

end Engine

namespace Cluster

theorem accepted_featureKeys {suite : List TestId} (h : ∀ t ∈ suite, t.WellFormed) :
    accepted (suite.map TestId.featureKey) = suite := by
  induction suite with
  | nil => rfl
  | cons t suite ih =>
    have hrest := ih fun u hu => h u (List.mem_cons_of_mem t hu)
    simp only [accepted, List.map_cons, List.filterMap_cons, (h t List.mem_cons_self).ofFeatureKey?]
    exact congrArg (t :: ·) hrest

theorem two_le_length {α : Type} {l : List α} {a b : α} (ha : a ∈ l) (hb : b ∈ l) (hab : a ≠ b) :
    2 ≤ l.length := by
  match l with
  | [] => cases ha
  | [c] => exact absurd ((List.mem_singleton.1 ha).trans (List.mem_singleton.1 hb).symm) hab
  | _ :: _ :: _ => exact Nat.le_add_left 2 _

variable {K : Type} [Scalar K]

theorem exists_cluster_of_twins {sim : String → String → K} {config : ClusterConfig K}
    {ids : List TestId} (hnodup : ids.Nodup) (hmin : config.minSize ≤ 2) {a b : TestId}
    (ha : a ∈ ids) (hb : b ∈ ids) (hab : a ≠ b) (hjoins : Joins sim config a b)
    (hjoins' : Joins sim config b a)
    (htwins : ∀ c ∈ ids, c ≠ a → c ≠ b → (Joins sim config c a ↔ Joins sim config c b)) :
    ∃ c ∈ ofLeaders sim config ids, a ∈ c.tests ∧ b ∈ c.tests ∧
      ∀ c' ∈ ofLeaders sim config ids, a ∈ c'.tests ∨ b ∈ c'.tests → c' = c := by
  obtain ⟨i, rfl⟩ := List.mem_iff_get.1 ha
  obtain ⟨j, rfl⟩ := List.mem_iff_get.1 hb
  have hij : i ≠ j := fun h => hab (congrArg ids.get h)
  have hinj := List.nodup_iff_injective_get.1 hnodup
  have htwins' : ∀ k, k ≠ i → k ≠ j →
      (Near sim config ids k i ↔ Near sim config ids k j) := fun k hki hkj =>
    htwins (ids.get k) (List.get_mem ids k) (hinj.ne hki) (hinj.ne hkj)
  obtain ⟨s, hs, hi, hj⟩ : ∃ s, Leader.IsSeed (Near sim config ids) s ∧
      i ∈ Leader.group (Near sim config ids) s ∧ j ∈ Leader.group (Near sim config ids) s := by
    rcases lt_or_gt_of_ne hij with hlt | hlt
    · exact Leader.exists_group_of_twins _ hlt hjoins fun k hk =>
        htwins' k hk.ne (hk.trans hlt).ne
    · obtain ⟨s, hs, hj, hi⟩ := Leader.exists_group_of_twins (Near sim config ids) hlt hjoins'
        fun k hk => (htwins' k (hk.trans hlt).ne hk.ne).symm
      exact ⟨s, hs, hi, hj⟩
  have hreported : IsReported sim config ids s := ⟨hs, hmin.trans (two_le_length hi hj hij)⟩
  refine ⟨_, mem_ofLeaders.2 ⟨s, hreported, rfl⟩, List.mem_map_of_mem hi, List.mem_map_of_mem hj, ?_⟩
  have hposition : ∀ k s', ids.get k ∈ (Leader.group (Near sim config ids) s').map ids.get →
      k ∈ Leader.group (Near sim config ids) s' := by
    intro k s' hk
    exact (List.mem_map_of_injective hinj).1 hk
  intro c' hc' hmem
  obtain ⟨s', hs', rfl⟩ := mem_ofLeaders.1 hc'
  suffices h : s' = s by rw [h]
  rcases hmem with hmem | hmem
  · exact (Leader.existsUnique_group _ i).unique ⟨hs'.1, hposition i s' hmem⟩ ⟨hs, hi⟩
  · exact (Leader.existsUnique_group _ j).unique ⟨hs'.1, hposition j s' hmem⟩ ⟨hs, hj⟩

/-- In a suite of distinct tests, two copies are in one and the same cluster, wherever they stand and
whatever the other tests are, unless the engine has compared another pair with the key of two of these
tests since it last forgot. -/
theorem copies_share_cluster [LawfulRatio K] (w : Weights K) (t : Thresholds K)
    (ops : List (Engine.Op K)) (config : ClusterConfig K) (hmin : config.minSize ≤ 2)
    (hone : config.thresholds.similar ≤ w.overall Scalar.one Scalar.one Scalar.one Scalar.one)
    (suite : List TestId) (hnodup : suite.Nodup) (hwf : ∀ t ∈ suite, t.WellFormed)
    (hown : Engine.UnmistakenAmong ops suite) (a b : TestId) (ha : a ∈ suite) (hb : b ∈ suite)
    (hab : a ≠ b) (hcopies : ((Engine.new w t).run ops).Copies a b) :
    ∃ c ∈ (ofKeys Engine.similarity config (suite.map TestId.featureKey)
        ((Engine.new w t).run ops)).1, a ∈ c.tests ∧ b ∈ c.tests ∧
      ∀ c' ∈ (ofKeys Engine.similarity config (suite.map TestId.featureKey)
        ((Engine.new w t).run ops)).1, a ∈ c'.tests ∨ b ∈ c'.tests → c' = c := by
  have hids := accepted_featureKeys hwf
  rw [Engine.ofKeys_similarity _ config (hids.symm ▸ hwf), hids]
  have hwa := hwf a ha
  have hwb := hwf b hb
  have hbest := hcopies.compute_self hwa hwb
  rw [Engine.run_weights] at hbest
  apply exists_cluster_of_twins hnodup hmin ha hb hab
  · rw [Joins, Engine.similarity_of_unmistaken w t hown ha hb hab, hbest]
    exact hone
  · rw [Joins, Engine.similarity_of_unmistaken w t hown hb ha hab.symm, Engine.compute_comm, hbest]
    exact hone
  · intro c hc hca hcb
    rw [Joins, Joins, Engine.similarity_of_unmistaken w t hown hc ha hca,
      Engine.similarity_of_unmistaken w t hown hc hb hcb, hcopies.compute_right hwa hwb]

def pasted : List (Engine.Op Float) :=
  let lines : Record Float := .ofLines "test_a" ⟨"a.py"⟩ 1 (.ofList [1, 2]) .empty ⟨0, 0⟩ none
  [.setCoverage ((Table.empty.insert "test_a::a.py" lines).insert "test_b::a.py" lines),
    .insertCoverage "test_c::c.py" (.ofLines "test_c" ⟨"c.py"⟩ 1 (.ofList [2, 3]) .empty ⟨0, 0⟩ none),
    .editFeatures fun features =>
      (features.insert "a.py:test_a" ⟨1, "raise_E", "func:test_a|params:0"⟩).insert "a.py:test_b"
        ⟨1, "raise_E", "func:test_b|params:0"⟩,
    .similarity "test_c::c.py" "test_a::a.py", .compare "a.py:test_d" "test_b::a.py"]

theorem pasted_copies :
    ((Engine.new Weights.standard Thresholds.standard).run pasted).Copies ⟨"test_b", "a.py"⟩
      ⟨"test_a", "a.py"⟩ := by
  have hagree : (⟨1, "raise_E", "func:test_b|params:0"⟩ : Signature).AgreeButName
      ⟨1, "raise_E", "func:test_a|params:0"⟩ :=
    .of_tokens "func:test_b" "func:test_a" ["params:0"] rfl rfl (by decide) (by decide) (by decide)
      (by decide)
  exact ⟨⟨_, _, rfl, rfl, rfl, by decide⟩, ⟨_, _, rfl, rfl, hagree, by decide, by decide, by decide⟩⟩

theorem copies_share_cluster_pasted :
    Engine.UnmistakenAmong pasted [⟨"test_b", "a.py"⟩, ⟨"test_c", "c.py"⟩, ⟨"test_a", "a.py"⟩] ∧
      ∃ c ∈ (ofKeys Engine.similarity ⟨Thresholds.standard, 2, 10⟩
          ["a.py:test_b", "c.py:test_c", "a.py:test_a"]
          ((Engine.new Weights.standard Thresholds.standard).run pasted)).1,
        ⟨"test_b", "a.py"⟩ ∈ c.tests ∧ ⟨"test_a", "a.py"⟩ ∈ c.tests := by
  have hown : Engine.UnmistakenAmong pasted
      [⟨"test_b", "a.py"⟩, ⟨"test_c", "c.py"⟩, ⟨"test_a", "a.py"⟩] := by decide
  obtain ⟨c, hc, hb, ha, -⟩ := copies_share_cluster Weights.standard Thresholds.standard pasted
    ⟨Thresholds.standard, 2, 10⟩ (by decide) (by decide +kernel)
    [⟨"test_b", "a.py"⟩, ⟨"test_c", "c.py"⟩, ⟨"test_a", "a.py"⟩] (by decide) (by decide) hown
    ⟨"test_b", "a.py"⟩ ⟨"test_a", "a.py"⟩ (by decide) (by decide) (by decide) pasted_copies
  exact ⟨hown, c, hc, hb, ha⟩

def coverEach (tests : List (TestId × List Nat)) : List (Engine.Op Float) :=
  tests.flatMap fun (t, lines) =>
    [.insertCoverage t.similarityKey (.ofLines t.name ⟨t.file⟩ 1 (.ofList lines) .empty ⟨0, 0⟩ none),
      .editFeatures (·.insert t.featureKey ⟨1, "raise_E", "func:" ++ t.name ++ "|params:0"⟩)]

def mistaken : List (Engine.Op Float) :=
  coverEach [(⟨"test_a", "a:x.py"⟩, [1, 2]), (⟨"test_b", "a:x.py"⟩, [1, 2])] ++
    [.compare "test_a::a" "x.py:test_b::a:x.py"]

/-- Two copies may be in no cluster at all: the engine takes them for a pair that it remembers. -/
theorem not_copies_share_cluster_mistaken :
    (∀ t ∈ [(⟨"test_a", "a:x.py"⟩ : TestId), ⟨"test_b", "a:x.py"⟩], t.WellFormed) ∧
      Thresholds.standard.similar ≤ Weights.standard.overall (Scalar.one : Float) Scalar.one Scalar.one
        Scalar.one ∧
      ((Engine.new Weights.standard Thresholds.standard).run mistaken).Copies ⟨"test_a", "a:x.py"⟩
        ⟨"test_b", "a:x.py"⟩ ∧
      (ofKeys Engine.similarity ⟨Thresholds.standard, 2, 10⟩ ["a:x.py:test_a", "a:x.py:test_b"]
        ((Engine.new Weights.standard Thresholds.standard).run mistaken)).1 = [] := by
  have hagree : (⟨1, "raise_E", "func:test_a|params:0"⟩ : Signature).AgreeButName
      ⟨1, "raise_E", "func:test_b|params:0"⟩ :=
    .of_tokens "func:test_a" "func:test_b" ["params:0"] rfl rfl (by decide) (by decide) (by decide)
      (by decide)
  refine ⟨by decide, by decide +kernel, ⟨⟨_, _, rfl, rfl, rfl, by decide⟩, ?_⟩, by decide +kernel⟩
  exact ⟨_, _, rfl, rfl, hagree, by decide, by decide, by decide⟩

end Cluster

end TestTwins
