import TestTwins.Proofs.Copies

namespace TestTwins

open Double

theorem Word.add_lt_count {m n : Nat} (hm : m < half) (hn : n < half) : m + n < count := by
  simp only [half, count] at *
  omega

theorem Table.mem_values_of_get? {κ ν : Type} [DecidableEq κ] {t : Table κ ν} {key : κ} {v : ν}
    (h : t.get? key = some v) : v ∈ t.values := by
  obtain ⟨entry, hentry, rfl⟩ := Option.map_eq_some_iff.1 h
  exact List.mem_map_of_mem (List.mem_of_find?_eq_some hentry)

section Jaccard

variable {α : Type} [LE α] [LT α] [DecidableLT α] [Std.IsLinearOrder α] [Std.LawfulOrderLT α]

theorem OrderedSet.size_union_le (s t : OrderedSet α) : (s.union t).size ≤ s.size + t.size := by
  calc (s.union t).size ≤ (s.toList ++ t.toList).length := size_ofList_le _
    _ = s.size + t.size := List.length_append

variable {a b : OrderedSet α} [DecidableEq α]

theorem atMost_jaccard (hword : a.size + b.size < Word.count) :
    AtMost (jaccard a b) (1 + 1 / 1000) := by
  simp only [jaccard]
  split
  · exact atMost_ofNat (by decide) (by norm_num)
  split
  · exact atMost_ofNat (by decide) (by norm_num)
  rename_i _ hfull
  have hpos : 0 < jointCount a b := jointCount_pos fun ha => hfull (by rw [ha, Bool.true_or])
  have hshared := sharedCount_le_jointCount a b
  apply (atMost_ratio hshared hpos ((a.size_union_le b).trans_lt hword)).mono
  have hshare : (sharedCount a b : ℚ) / jointCount a b ≤ 1 :=
    div_le_one_of_le₀ (Nat.cast_le.2 hshared) (Nat.cast_nonneg _)
  linarith

theorem atMost_jaccard_of_disjoint (hword : a.size + b.size < Word.count) (ha : ¬ a.isEmpty)
    (hb : ¬ b.isEmpty) (hab : ∀ x ∈ a, x ∉ b) : AtMost (jaccard a b) (1 / 1000) := by
  have hnone : sharedCount a b = 0 := by
    apply List.length_eq_zero_iff.2
    apply List.eq_nil_iff_forall_not_mem.2
    intro x hx
    obtain ⟨hxa, hxb⟩ := OrderedSet.mem_inter.1 hx
    exact hab x hxa hxb
  have hratio := atMost_ratio (Nat.zero_le (jointCount a b)) (jointCount_pos ha)
    ((a.size_union_le b).trans_lt hword)
  rw [jaccard, if_neg (by simp [ha]), if_neg (by simp [ha, hb]), hnone]
  simpa using hratio

end Jaccard

theorem atMost_mockSimilarity {a b : Nat} (ha : a < Word.count) (hb : b < Word.count) :
    AtMost (mockSimilarity a b) (1 + 1 / 1000) := by
  simp only [mockSimilarity]
  split
  · exact atMost_ofNat (by decide) (by norm_num)
  split
  · exact atMost_ofNat (by decide) (by norm_num)
  have hle : min a b ≤ max a b := min_le_max
  apply (atMost_ratio hle (by omega) (max_lt ha hb)).mono
  have hshare : ((min a b : Nat) : ℚ) / (max a b : Nat) ≤ 1 :=
    div_le_one_of_le₀ (Nat.cast_le.2 hle) (Nat.cast_nonneg _)
  linarith

theorem atMost_overall {coverage mock exception shape : Float} (hcoverage : AtMost coverage (1 / 1000))
    (hmock : AtMost mock (1 + 1 / 1000)) (hexception : AtMost exception (1 + 1 / 1000))
    (hshape : AtMost shape (1 + 1 / 1000)) :
    AtMost (Weights.standard.overall coverage mock exception shape) (62 / 100) := by
  have hfour : AtMost Weights.standard.coverage (41 / 100) :=
    ⟨_, denotes_of_digits (m := 7205759403792794) (e := -54) (by decide +kernel) (by decide), by norm_num⟩
  have hthree : AtMost Weights.standard.mock (301 / 1000) :=
    ⟨_, denotes_of_digits (m := 5404319552844595) (e := -54) (by decide +kernel) (by decide), by norm_num⟩
  have htwo : AtMost Weights.standard.exception (201 / 1000) :=
    ⟨_, denotes_of_digits (m := 7205759403792794) (e := -55) (by decide +kernel) (by decide), by norm_num⟩
  have hone : AtMost Weights.standard.shape (101 / 1000) :=
    ⟨_, denotes_of_digits (m := 7205759403792794) (e := -56) (by decide +kernel) (by decide), by norm_num⟩
  have h₁ : AtMost (coverage * Weights.standard.coverage) (1 / 1000) :=
    hcoverage.mul hfour (by norm_num) (by norm_num)
  have h₂ : AtMost (mock * Weights.standard.mock) (302 / 1000) :=
    hmock.mul hthree (by norm_num) (by norm_num)
  have h₃ : AtMost (exception * Weights.standard.exception) (202 / 1000) :=
    hexception.mul htwo (by norm_num) (by norm_num)
  have h₄ : AtMost (shape * Weights.standard.shape) (102 / 1000) :=
    hshape.mul hone (by norm_num) (by norm_num)
  have h₁₂ := h₁.add h₂ (r := 304 / 1000) (by norm_num) (by norm_num)
  have h₁₂₃ := h₁₂.add h₃ (r := 507 / 1000) (by norm_num) (by norm_num)
  exact h₁₂₃.add h₄ (by norm_num) (by norm_num)

theorem not_similar_of_atMost {score : Float} (h : AtMost score (62 / 100)) :
    ¬ Thresholds.standard.similar ≤ score :=
  h.not_le (denotes_of_digits (m := 6305039478318694) (e := -53) (by decide +kernel) (by decide))
    (by norm_num)

/-- Counts are words, and texts are no longer than memory can be. -/
structure Signature.InMemory (s : Signature) : Prop where
  mocks : s.mocks < Word.count
  exceptions : s.exceptions.length < Word.half
  shape : s.shape.length < Word.half

instance (s : Signature) : Decidable s.InMemory :=
  decidable_of_iff
    (s.mocks < Word.count ∧ s.exceptions.length < Word.half ∧ s.shape.length < Word.half)
    ⟨fun ⟨a, b, c⟩ => ⟨a, b, c⟩, fun ⟨a, b, c⟩ => ⟨a, b, c⟩⟩

namespace Engine

variable {K : Type}

structure InMemory (e : Engine K) : Prop where
  coverage : ∀ r ∈ e.coverage.values, r.covered.size < Word.half
  features : ∀ s ∈ e.features.features.values, s.InMemory

def CoverApart (e : Engine K) (a b : TestId) : Prop :=
  ∃ r s, e.coverage.get? a.similarityKey = some r ∧ e.coverage.get? b.similarityKey = some s ∧
    ¬ r.covered.isEmpty ∧ ¬ s.covered.isEmpty ∧ ∀ line ∈ r.covered, line ∉ s.covered

theorem not_coverApart_self (e : Engine K) (a : TestId) : ¬ e.CoverApart a a := by
  rintro ⟨r, s, hr, hs, hfull, -, hapart⟩
  obtain rfl : r = s := Option.some.inj (hr.symm.trans hs)
  obtain ⟨line, hline⟩ := List.exists_mem_of_ne_nil r.covered.toList (mt List.isEmpty_iff.2 hfull)
  exact hapart line hline hline

theorem InMemory.featuresOf? {e : Engine K} (h : e.InMemory) {key : String} {s : Signature}
    (hs : e.featuresOf? key = some s) : s.InMemory := by
  obtain ⟨k, -, rfl⟩ := Option.map_eq_some_iff.1 hs
  cases hget : e.features.get? k with
  | none => decide
  | some s => exact h.features s (Table.mem_values_of_get? hget)

theorem CoverApart.not_similar {e : Engine Float} {a b : TestId} (h : e.CoverApart a b)
    (hmemory : e.InMemory) (hweights : e.weights = Weights.standard) :
    ¬ Thresholds.standard.similar ≤ (e.compute a.similarityKey b.similarityKey).overall := by
  obtain ⟨r, s, hr, hs, hfull, hfull', hapart⟩ := h
  have hlines : AtMost (jaccard r.covered s.covered) (1 / 1000) :=
    atMost_jaccard_of_disjoint (Word.add_lt_count (hmemory.coverage r (Table.mem_values_of_get? hr))
      (hmemory.coverage s (Table.mem_values_of_get? hs))) hfull hfull' hapart
  have hzero : AtMost (Scalar.zero : Float) (1 + 1 / 1000) := atMost_ofNat (by decide) (by norm_num)
  apply not_similar_of_atMost
  simp only [compute, coverageScore, hr, hs, hweights]
  cases hx : e.featuresOf? a.similarityKey with
  | none => exact atMost_overall hlines hzero hzero hzero
  | some x =>
    cases hy : e.featuresOf? b.similarityKey with
    | none => exact atMost_overall hlines hzero hzero hzero
    | some y =>
      have hx' := hmemory.featuresOf? hx
      have hy' := hmemory.featuresOf? hy
      apply atMost_overall hlines (atMost_mockSimilarity hx'.mocks hy'.mocks)
      · exact atMost_jaccard (Word.add_lt_count ((size_tokenSet_le _).trans_lt hx'.exceptions)
          ((size_tokenSet_le _).trans_lt hy'.exceptions))
      · exact atMost_jaccard (Word.add_lt_count ((size_shapeSet_le _).trans_lt hx'.shape)
          ((size_shapeSet_le _).trans_lt hy'.shape))

end Engine

namespace Cluster

theorem joins_representative {K : Type} [Scalar K] {sim : String → String → K}
    {config : ClusterConfig K} {ids : List TestId} {c : Cluster K} (hc : c ∈ ofLeaders sim config ids)
    {t : TestId} (ht : t ∈ c.tests) :
    c.representative ∈ ids ∧ (t = c.representative ∨ Joins sim config c.representative t) := by
  obtain ⟨s, -, rfl⟩ := mem_ofLeaders.1 hc
  obtain ⟨i, hi, rfl⟩ := List.mem_map.1 ht
  refine ⟨List.get_mem ids s, ?_⟩
  rcases Leader.mem_group.1 hi with rfl | ⟨-, hleads⟩
  · exact .inl rfl
  · exact .inr hleads.1.2.2

/-- By the standard weights and thresholds, no member of a cluster covers lines apart from those of the
test that started it, whatever the features of the two are, unless the engine has compared another pair
with the key of two of the tests since it last forgot. -/
theorem not_coverApart_representative (t : Thresholds Float) (ops : List (Engine.Op Float))
    (hmemory : ((Engine.new Weights.standard t).run ops).InMemory) (keys : List String)
    (hkeys : ∀ id ∈ accepted keys, id.WellFormed) (hown : Engine.UnmistakenAmong ops (accepted keys)) :
    ∀ c ∈ (ofKeys Engine.similarity ⟨Thresholds.standard, 2, 10⟩ keys
        ((Engine.new Weights.standard t).run ops)).1, ∀ u ∈ c.tests,
      ¬ ((Engine.new Weights.standard t).run ops).CoverApart c.representative u := by
  rw [Engine.ofKeys_similarity _ _ hkeys]
  intro c hc u hu hapart
  obtain ⟨hseed, hjoins⟩ := joins_representative hc hu
  by_cases hself : c.representative = u
  · rw [hself] at hapart
    exact Engine.not_coverApart_self _ _ hapart
  · have hsimilar := hjoins.resolve_left (Ne.symm hself)
    rw [Joins, Engine.similarity_of_unmistaken _ t hown hseed (mem_of_mem_ofLeaders hc hu) hself]
      at hsimilar
    exact hapart.not_similar hmemory (Engine.run_weights _ ops) hsimilar

def spread : List (Engine.Op Float) :=
  coverEach [(⟨"test_both", "a.py"⟩, [1, 2]), (⟨"test_one", "a.py"⟩, [1]), (⟨"test_two", "a.py"⟩, [2]),
    (⟨"test_far", "a.py"⟩, [9])] ++
    [.similarity "test_far::a.py" "test_both::a.py", .compare "a.py:test_one" "a.py"]

def spreadKeys : List String := ["a.py:test_both", "a.py:test_one", "a.py:test_two", "a.py:test_far"]

theorem not_coverApart_representative_spread :
    ((Engine.new Weights.standard Thresholds.standard).run spread).InMemory ∧
      (∀ id ∈ accepted spreadKeys, id.WellFormed) ∧
      Engine.UnmistakenAmong spread (accepted spreadKeys) ∧
      ∀ c ∈ (ofKeys Engine.similarity ⟨Thresholds.standard, 2, 10⟩ spreadKeys
          ((Engine.new Weights.standard Thresholds.standard).run spread)).1, ∀ u ∈ c.tests,
        ¬ ((Engine.new Weights.standard Thresholds.standard).run spread).CoverApart
          c.representative u := by
  have hmemory : ((Engine.new Weights.standard Thresholds.standard).run spread).InMemory :=
    ⟨by decide, by decide⟩
  have hkeys : ∀ id ∈ accepted spreadKeys, id.WellFormed := by decide
  have hown : Engine.UnmistakenAmong spread (accepted spreadKeys) := by decide +kernel
  exact ⟨hmemory, hkeys, hown,
    not_coverApart_representative Thresholds.standard spread hmemory spreadKeys hkeys hown⟩

def entangled : List (Engine.Op Float) :=
  coverEach [(⟨"a", "x"⟩, [1]), (⟨"a", "x:b::y"⟩, [2]), (⟨"b", "y:c::z"⟩, [1]), (⟨"c", "z"⟩, [3])]

def crossed : List (Engine.Op Float) :=
  coverEach [(⟨"a", "x"⟩, [1]), (⟨"y:b", "z"⟩, [1]), (⟨"a", "x:y"⟩, [2]), (⟨"b", "z"⟩, [3])] ++
    [.compare "a::x" "y:b::z"]

/-- Two members of a cluster may have no line in common when each has one in common with the first. Even
the first may share no line with another when the engine takes the pair for one that it remembers: a pair
of other members, if file names have double colons, or one that was compared before. -/
theorem disjoint_tests_share_cluster :
    ((ofKeys Engine.similarity ⟨Thresholds.standard, 2, 10⟩ spreadKeys
        ((Engine.new Weights.standard Thresholds.standard).run spread)).1.map (·.tests) =
      [[⟨"test_both", "a.py"⟩, ⟨"test_one", "a.py"⟩, ⟨"test_two", "a.py"⟩]] ∧
    ((Engine.new Weights.standard Thresholds.standard).run spread).CoverApart ⟨"test_one", "a.py"⟩
      ⟨"test_two", "a.py"⟩) ∧
    ((ofKeys Engine.similarity ⟨Thresholds.standard, 2, 10⟩ ["x:a", "x:b::y:a", "y:c::z:b", "z:c"]
        ((Engine.new Weights.standard Thresholds.standard).run entangled)).1.map (·.tests) =
      [[⟨"a", "x"⟩, ⟨"b", "y:c::z"⟩], [⟨"a", "x:b::y"⟩, ⟨"c", "z"⟩]] ∧
    ((Engine.new Weights.standard Thresholds.standard).run entangled).CoverApart ⟨"a", "x:b::y"⟩
      ⟨"c", "z"⟩) ∧
    (∀ id ∈ accepted ["x:y:a", "z:b"], id.WellFormed) ∧
    (ofKeys Engine.similarity ⟨Thresholds.standard, 2, 10⟩ ["x:y:a", "z:b"]
        ((Engine.new Weights.standard Thresholds.standard).run crossed)).1.map (·.tests) =
      [[⟨"a", "x:y"⟩, ⟨"b", "z"⟩]] ∧
    ((Engine.new Weights.standard Thresholds.standard).run crossed).CoverApart ⟨"a", "x:y"⟩
      ⟨"b", "z"⟩ := by
  refine ⟨⟨by decide +kernel, ?_⟩, ⟨by decide +kernel, ?_⟩, by decide, by decide +kernel, ?_⟩
  · exact ⟨_, _, rfl, rfl, by decide, by decide, by decide⟩
  · exact ⟨_, _, rfl, rfl, by decide, by decide, by decide⟩
  · exact ⟨_, _, rfl, rfl, by decide, by decide, by decide⟩

end Cluster

end TestTwins
