import TestTwins.Proofs.EngineCache

/-! What an engine says of a pair of tests, whatever it has been asked before. The order of the two tests
never shows. Over exact fractions each score lies between zero and one, and the overall score between
zero and the sum of the weights.

The memory is looked up by the joined text of two keys, and two pairs can have one text. An answer is
therefore that of some pair with the text in question; it is that of the pair itself as long as no
other one has been asked for, and with names free of colons and file names free of double colons there is
no other one. -/

namespace TestTwins

section Fractions

@[simp] theorem Scalar.zero_rat : (Scalar.zero : ℚ) = 0 := Nat.cast_zero

@[simp] theorem Scalar.one_rat : (Scalar.one : ℚ) = 1 := Nat.cast_one

theorem Scalar.ratio_mem_unit {part whole : Nat} (h : part ≤ whole) :
    (Scalar.ratio part whole : ℚ) ∈ Set.Icc 0 1 := by
  change (part : ℚ) / whole ∈ Set.Icc 0 1
  exact ⟨by positivity, div_le_one_of_le₀ (Nat.cast_le.2 h) (Nat.cast_nonneg _)⟩

theorem Scalar.ratio_eq_one_iff {part whole : Nat} (h : 0 < whole) :
    (Scalar.ratio part whole : ℚ) = 1 ↔ part = whole := by
  change (part : ℚ) / whole = 1 ↔ part = whole
  rw [div_eq_one_iff_eq (Nat.cast_ne_zero.2 h.ne'), Nat.cast_inj]

section Jaccard

theorem OrderedSet.isEmpty_iff {α : Type} [LT α] {s : OrderedSet α} : s.isEmpty ↔ ∀ a, a ∉ s :=
  List.isEmpty_iff.trans List.eq_nil_iff_forall_not_mem

variable {α : Type} [LE α] [LT α] [DecidableLT α] [Std.IsLinearOrder α] [Std.LawfulOrderLT α]
  [DecidableEq α]

theorem sharedCount_eq_jointCount_iff {a b : OrderedSet α} : sharedCount a b = jointCount a b ↔ a = b := by
  constructor
  · intro h
    have hsub : (a.inter b).toList.Subperm (a.union b).toList := by
      apply (a.inter b).nodup_toList.subperm
      intro x hx
      exact OrderedSet.mem_union.2 (.inl (OrderedSet.mem_inter.1 hx).1)
    have hperm := hsub.perm_of_length_le h.ge
    apply OrderedSet.ext_mem
    intro x
    have hx : x ∈ a.union b → x ∈ a ∧ x ∈ b := fun hx =>
      OrderedSet.mem_inter.1 (hperm.mem_iff.2 hx)
    exact ⟨fun ha => (hx (OrderedSet.mem_union.2 (.inl ha))).2,
      fun hb => (hx (OrderedSet.mem_union.2 (.inr hb))).1⟩
  · rintro rfl
    simp [sharedCount, jointCount]

theorem jaccard_mem_unit (a b : OrderedSet α) : (jaccard a b : ℚ) ∈ Set.Icc 0 1 := by
  simp only [jaccard]
  split
  · simp
  split
  · simp
  · exact Scalar.ratio_mem_unit (sharedCount_le_jointCount a b)

theorem jaccard_eq_one_iff {a b : OrderedSet α} : (jaccard a b : ℚ) = 1 ↔ a = b := by
  simp only [jaccard, Bool.and_eq_true, Bool.or_eq_true]
  split
  · rename_i h
    have hab : a = b := OrderedSet.ext_mem fun x =>
      iff_of_false (OrderedSet.isEmpty_iff.1 h.1 x) (OrderedSet.isEmpty_iff.1 h.2 x)
    simp [hab]
  split
  · rename_i hnot hone
    have hab : a ≠ b := by
      rintro rfl
      exact hnot ⟨hone.elim id id, hone.elim id id⟩
    simp [hab]
  · rename_i hfull
    rw [Scalar.ratio_eq_one_iff (jointCount_pos fun ha => hfull (.inl ha)),
      sharedCount_eq_jointCount_iff]

end Jaccard

theorem mockSimilarity_mem_unit (a b : Nat) : (mockSimilarity a b : ℚ) ∈ Set.Icc 0 1 := by
  simp only [mockSimilarity]
  split
  · simp
  split
  · simp
  · exact Scalar.ratio_mem_unit min_le_max

theorem mockSimilarity_eq_one_iff {a b : Nat} : (mockSimilarity a b : ℚ) = 1 ↔ a = b := by
  simp only [mockSimilarity]
  split
  · rename_i h
    simp [h]
  split
  · simp only [Scalar.zero_rat, zero_ne_one, false_iff]
    omega
  · rw [Scalar.ratio_eq_one_iff (by omega), inf_eq_sup]

end Fractions

namespace Weights

def All {K : Type} (p : K → Prop) (w : Weights K) : Prop :=
  p w.coverage ∧ p w.mock ∧ p w.exception ∧ p w.shape

def total (w : Weights ℚ) : ℚ := w.coverage + w.mock + w.exception + w.shape

end Weights

namespace Scores

def All {K : Type} (p : K → Prop) (s : Scores K) : Prop :=
  p s.coverage ∧ p s.mock ∧ p s.exception ∧ p s.shape

def WeighedBy (w : Weights ℚ) (s : Scores ℚ) : Prop :=
  s.overall = s.coverage * w.coverage + s.mock * w.mock + s.exception * w.exception + s.shape * w.shape

namespace WeighedBy

variable {w : Weights ℚ} {s : Scores ℚ}

theorem overall_nonneg (h : s.WeighedBy w) (hw : w.All (0 ≤ ·)) (hs : s.All (· ∈ Set.Icc 0 1)) :
    0 ≤ s.overall := by
  obtain ⟨hcoverage, hmock, hexception, hshape⟩ := hw
  obtain ⟨⟨hc, -⟩, ⟨hm, -⟩, ⟨hx, -⟩, ⟨hp, -⟩⟩ := hs
  rw [h]
  positivity

theorem total_sub_overall (h : s.WeighedBy w) :
    w.total - s.overall = (1 - s.coverage) * w.coverage + (1 - s.mock) * w.mock +
      (1 - s.exception) * w.exception + (1 - s.shape) * w.shape := by
  rw [h, Weights.total]
  ring

theorem overall_le_total (h : s.WeighedBy w) (hw : w.All (0 ≤ ·)) (hs : s.All (· ∈ Set.Icc 0 1)) :
    s.overall ≤ w.total := by
  obtain ⟨hcoverage, hmock, hexception, hshape⟩ := hw
  obtain ⟨⟨-, hc⟩, ⟨-, hm⟩, ⟨-, hx⟩, ⟨-, hp⟩⟩ := hs
  rw [← sub_nonneg] at hc hm hx hp ⊢
  rw [h.total_sub_overall]
  positivity

theorem overall_of_all_one (h : s.WeighedBy w) (hs : s.All (· = 1)) : s.overall = w.total := by
  obtain ⟨hc, hm, hx, hp⟩ := hs
  rw [h, hc, hm, hx, hp, Weights.total]
  ring

theorem all_one_of_overall (h : s.WeighedBy w) (hw : w.All (0 < ·)) (hs : s.All (· ∈ Set.Icc 0 1))
    (htotal : s.overall = w.total) : s.All (· = 1) := by
  obtain ⟨hcoverage, hmock, hexception, hshape⟩ := hw
  obtain ⟨⟨-, hc⟩, ⟨-, hm⟩, ⟨-, hx⟩, ⟨-, hp⟩⟩ := hs
  rw [← sub_nonneg] at hc hm hx hp
  have hlack := h.total_sub_overall
  rw [htotal, sub_self] at hlack
  -- A sum of four terms, none of them negative, is zero only if each is.
  have hzero : ∀ {x y : ℚ}, 0 < y → (1 - x) * y = 0 → x = 1 := by
    intro x y hy hxy
    rcases mul_eq_zero.1 hxy with h | h
    · linarith
    · exact absurd h hy.ne'
  have hcoverage' := mul_nonneg hc hcoverage.le
  have hmock' := mul_nonneg hm hmock.le
  have hexception' := mul_nonneg hx hexception.le
  have hshape' := mul_nonneg hp hshape.le
  exact ⟨hzero hcoverage (by linarith), hzero hmock (by linarith), hzero hexception (by linarith),
    hzero hshape (by linarith)⟩

end WeighedBy

end Scores

namespace Engine

section Order

variable {K : Type} [Scalar K]

theorem compare_comm (e : Engine K) (a b : String) : e.compare a b = e.compare b a := by
  simp only [compare, pairKey_comm a b, e.compute_comm a b]

theorem similarity_comm (e : Engine K) (a b : String) : e.similarity a b = e.similarity b a := by
  simp only [similarity, e.compare_comm a b]

def Op.swap : Op K → Op K
  | .compare a b => .compare b a
  | .similarity a b => .similarity b a
  | op => op

theorem apply_swap (op : Op K) (e : Engine K) : op.swap.apply e = op.apply e := by
  cases op with
  | compare a b => exact congrArg Prod.snd (e.compare_comm b a)
  | similarity a b => exact congrArg Prod.snd (e.similarity_comm b a)
  | _ => rfl

def swapSome (history : List (Op K × Bool)) : List (Op K) :=
  history.map fun (op, swapped) => if swapped then op.swap else op

theorem run_swapSome (e : Engine K) (history : List (Op K × Bool)) :
    e.run (swapSome history) = e.run (history.map (·.1)) := by
  induction history generalizing e with
  | nil => rfl
  | cons step history ih =>
    obtain ⟨op, swapped⟩ := step
    have hstep : (if swapped then op.swap else op).apply e = op.apply e := by
      cases swapped with
      | true => exact apply_swap op e
      | false => rfl
    change ((if swapped then op.swap else op).apply e).run (swapSome history) = _
    rw [hstep]
    exact ih (op.apply e)

/-- In every state of an engine, over doubles as over fractions, the order of two tests changes neither
their scores nor what the engine remembers. Nor can a whole history be told from one in which some
tests were asked for in the other order. -/
theorem compare_either_order (e : Engine K) (a b : String) :
    e.compare a b = e.compare b a ∧ e.similarity a b = e.similarity b a ∧
      ∀ history : List (Op K × Bool), e.run (swapSome history) = e.run (history.map (·.1)) :=
  ⟨e.compare_comm a b, e.similarity_comm a b, e.run_swapSome⟩

end Order

section Memory

variable {K : Type} [Scalar K]

/-- Every remembered answer is the present one about a pair of those given, found under its key. -/
def Recalls (e : Engine K) (pairs : Finset (Sym2 String)) : Prop :=
  ∀ key s, e.cache.get? key = some s → ∃ a b, s(a, b) ∈ pairs ∧ pairKey a b = key ∧ s = e.compute a b

theorem recalls_of_forgot {e : Engine K} (h : e.cache = .empty) (pairs : Finset (Sym2 String)) :
    e.Recalls pairs := by
  intro key s hs
  simp [h] at hs

variable {e : Engine K} {pairs : Finset (Sym2 String)}

/-- An answer is the present one about some pair with the key of the pair asked for: the pair itself, or
one of those remembered. -/
theorem Recalls.exists_compare (h : e.Recalls pairs) (a b : String) :
    ∃ c d, s(c, d) ∈ insert s(a, b) pairs ∧ pairKey c d = pairKey a b ∧
      (e.compare a b).1 = e.compute c d := by
  rw [compare_fst]
  cases hs : e.cache.get? (pairKey a b) with
  | some s =>
    obtain ⟨c, d, hmem, hkey, hscores⟩ := h _ _ hs
    exact ⟨c, d, Finset.mem_insert_of_mem hmem, hkey, hscores⟩
  | none => exact ⟨a, b, Finset.mem_insert_self _ _, rfl, rfl⟩

theorem Recalls.compare_snd (h : e.Recalls pairs) (a b : String) :
    (e.compare a b).2.Recalls (insert s(a, b) pairs) := by
  have hcompute : (e.compare a b).2.compute = e.compute := compute_eq_of_clearCache (by simp)
  intro key s hs
  rw [get?_cache_compare] at hs
  rw [hcompute]
  split at hs
  · rename_i hkey
    obtain ⟨c, d, hmem, hsame, hscores⟩ := h.exists_compare a b
    exact ⟨c, d, hmem, hsame.trans hkey, (Option.some.inj hs).symm.trans hscores⟩
  · obtain ⟨c, d, hmem, hkey, hscores⟩ := h key s hs
    exact ⟨c, d, Finset.mem_insert_of_mem hmem, hkey, hscores⟩

theorem Recalls.apply (h : e.Recalls pairs) (op : Op K) :
    (op.apply e).Recalls (op.comparedAfter pairs) := by
  cases op with
  | compare a b => exact h.compare_snd a b
  | similarity a b => exact h.compare_snd a b
  | setCoverage c => exact recalls_of_forgot rfl _
  | insertCoverage key r => exact recalls_of_forgot rfl _
  | editFeatures edit => exact recalls_of_forgot rfl _
  | clearCache => exact recalls_of_forgot rfl _
  | clearAll => exact recalls_of_forgot rfl _
  | updateThresholds u => exact recalls_of_forgot rfl _

theorem Recalls.run (h : e.Recalls pairs) (ops : List (Op K)) :
    (e.run ops).Recalls (ops.foldl (fun pairs op => op.comparedAfter pairs) pairs) := by
  induction ops generalizing e pairs with
  | nil => exact h
  | cons op ops ih => exact ih (h.apply op)

theorem recalls_run_new (w : Weights K) (t : Thresholds K) (ops : List (Op K)) :
    ((new w t).run ops).Recalls (compared ops) :=
  (recalls_of_forgot rfl ∅).run ops

end Memory

section Range

/-- Since the engine last forgot, no other pair with the key of this one has been compared. -/
def Unmistaken {K : Type} (ops : List (Op K)) (a b : String) : Prop :=
  ∀ c d, s(c, d) ∈ compared ops → pairKey c d = pairKey a b → s(c, d) = s(a, b)

instance {K : Type} (ops : List (Op K)) (a b : String) : Decidable (Unmistaken ops a b) :=
  decidable_of_iff
    (∀ pair ∈ compared ops, Sym2.lift ⟨pairKey, pairKey_comm⟩ pair = pairKey a b → pair = s(a, b))
    ⟨fun h c d => h s(c, d), fun h pair => Sym2.ind h pair⟩

def UnmistakenAmong {K : Type} (ops : List (Op K)) (tests : List TestId) : Prop :=
  ∀ a ∈ tests, ∀ b ∈ tests, a ≠ b → Unmistaken ops a.similarityKey b.similarityKey

instance {K : Type} (ops : List (Op K)) (tests : List TestId) : Decidable (UnmistakenAmong ops tests) :=
  inferInstanceAs
    (Decidable (∀ a ∈ tests, ∀ b ∈ tests, a ≠ b → Unmistaken ops a.similarityKey b.similarityKey))

theorem isTestKey_of_mem_compared {K : Type} {ops : List (Op K)} (h : ∀ op ∈ ops, op.OnTests) :
    ∀ pair ∈ compared ops, ∀ key ∈ pair, IsTestKey key := by
  suffices ∀ pairs : Finset (Sym2 String), (∀ pair ∈ pairs, ∀ key ∈ pair, IsTestKey key) →
      ∀ pair ∈ ops.foldl (fun pairs op => op.comparedAfter pairs) pairs, ∀ key ∈ pair, IsTestKey key from
    this ∅ (by simp)
  induction ops with
  | nil => exact fun _ hpairs => hpairs
  | cons op ops ih =>
    obtain ⟨hop, hops⟩ := List.forall_mem_cons.1 h
    intro pairs hpairs
    apply ih hops
    have hquestion : ∀ a b, IsTestKey a ∧ IsTestKey b → ∀ pair ∈ insert s(a, b) pairs,
        ∀ key ∈ pair, IsTestKey key := by
      intro a b hab
      refine (Finset.forall_mem_insert ..).2 ⟨?_, hpairs⟩
      simpa [Sym2.mem_iff] using hab
    cases op with
    | compare a b => exact hquestion a b hop
    | similarity a b => exact hquestion a b hop
    | _ => simp [Op.comparedAfter]

theorem unmistaken_of_onTests {K : Type} {ops : List (Op K)} (h : ∀ op ∈ ops, op.OnTests)
    {a b : String} (ha : IsTestKey a) (hb : IsTestKey b) : Unmistaken ops a b := by
  intro c d hmem hkey
  have htests := isTestKey_of_mem_compared h _ hmem
  exact (pairKey_inj (htests c (Sym2.mem_mk_left c d)) (htests d (Sym2.mem_mk_right c d)) ha hb).1 hkey

theorem Recalls.compare_of_unmistaken {K : Type} [Scalar K] {e : Engine K} {ops : List (Op K)}
    (h : e.Recalls (compared ops)) {a b : String} (hab : Unmistaken ops a b) :
    (e.compare a b).1 = e.compute a b := by
  obtain ⟨c, d, hmem, hkey, hscores⟩ := h.exists_compare a b
  rw [hscores]
  rcases Finset.mem_insert.1 hmem with hpair | hpair
  · exact e.compute_eq_of_pair hpair
  · exact e.compute_eq_of_pair (hab c d hpair hkey)

structure FullWhereEqual (e : Engine ℚ) (a b : String) (s : Scores ℚ) : Prop where
  coverage : ∀ r r', e.coverage.get? a = some r → e.coverage.get? b = some r' →
    r.covered = r'.covered → s.coverage = 1
  features : ∀ f g, e.featuresOf? a = some f → e.featuresOf? b = some g →
    (f.mocks = g.mocks → s.mock = 1) ∧ (f.exceptions = g.exceptions → s.exception = 1) ∧
      (f.shape = g.shape → s.shape = 1)

variable (e : Engine ℚ) (a b : String)

theorem compute_mem_unit : (e.compute a b).All (· ∈ Set.Icc 0 1) := by
  have hzero : (Scalar.zero : ℚ) ∈ Set.Icc 0 1 := by simp
  have hcoverage : e.coverageScore a b ∈ Set.Icc 0 1 := by
    simp only [coverageScore]
    split
    · exact jaccard_mem_unit _ _
    · exact hzero
  simp only [compute]
  split
  · exact ⟨hcoverage, mockSimilarity_mem_unit _ _, jaccard_mem_unit _ _, jaccard_mem_unit _ _⟩
  · exact ⟨hcoverage, hzero, hzero, hzero⟩

theorem compute_weighedBy : (e.compute a b).WeighedBy e.weights := rfl

theorem compute_fullWhereEqual : e.FullWhereEqual a b (e.compute a b) where
  coverage r r' ha hb h := by
    simp only [compute, coverageScore, ha, hb]
    exact jaccard_eq_one_iff.2 h
  features f g ha hb := by
    simp only [compute, ha, hb]
    refine ⟨mockSimilarity_eq_one_iff.2, fun h => ?_, fun h => ?_⟩
    · exact jaccard_eq_one_iff.2 (congrArg tokenSet h)
    · exact jaccard_eq_one_iff.2 (congrArg shapeSet h)

end Range

/-- Whatever a new engine with weights that are not negative has been asked, the four scores of a pair
lie between zero and one and the overall score between zero and the sum of the weights; that sum is
reached by four full scores, and if all weights are positive by no others. Data that two tests have in
common give a full score unless another pair with the same key was compared before, which cannot be
where all tests compared are well-formed. -/
theorem compare_inRange {w : Weights ℚ} (hw : w.All (0 ≤ ·)) (t : Thresholds ℚ) (ops : List (Op ℚ))
    (a b : String) :
    let e := (new w t).run ops
    let s := (e.compare a b).1
    s.All (· ∈ Set.Icc 0 1) ∧ s.overall ∈ Set.Icc 0 w.total ∧ (w.total ≤ 1 → s.overall ∈ Set.Icc 0 1) ∧
      (s.All (· = 1) → s.overall = w.total) ∧
      (w.All (0 < ·) → s.overall = w.total → s.All (· = 1)) ∧
      (Unmistaken ops a b → e.FullWhereEqual a b s) ∧
      ((∀ op ∈ ops, op.OnTests) → IsTestKey a → IsTestKey b → Unmistaken ops a b) := by
  intro e s
  have hrecalls := recalls_run_new w t ops
  obtain ⟨c, d, -, -, hscores⟩ := hrecalls.exists_compare a b
  have hs : s = e.compute c d := hscores
  have hunit : s.All (· ∈ Set.Icc 0 1) := hs ▸ e.compute_mem_unit c d
  have hweights : e.weights = w := run_weights _ ops
  have hweighed : s.WeighedBy w := hs ▸ hweights ▸ e.compute_weighedBy c d
  have hlow := hweighed.overall_nonneg hw hunit
  have hhigh := hweighed.overall_le_total hw hunit
  refine ⟨hunit, ⟨hlow, hhigh⟩, fun hone => ⟨hlow, hhigh.trans hone⟩, hweighed.overall_of_all_one,
    fun hpos => hweighed.all_one_of_overall hpos hunit, fun hab => ?_,
    fun hops => unmistaken_of_onTests hops⟩
  have hown : s = e.compute a b := hrecalls.compare_of_unmistaken hab
  rw [hown]
  exact e.compute_fullWhereEqual a b

def shared : Record ℚ := .ofLines "test" ⟨"t.py"⟩ 1 (.ofList [1, 2]) .empty ⟨0, 0⟩ none

theorem compare_inRange_twins :
    let e := (new ⟨2 / 5, 3 / 10, 1 / 5, 1 / 10⟩ ⟨1, 1, 1⟩).run
      [.insertCoverage "test_a::a.py" shared, .insertCoverage "test_b::b.py" shared,
        .compare "test_b::b.py" "test_a::a.py"]
    (e.compare "test_a::a.py" "test_b::b.py").1.coverage = 1 ∧
      (e.compare "test_a::a.py" "test_b::b.py").1.overall ≤ 1 := by
  intro e
  have ha : IsTestKey "test_a::a.py" := ⟨⟨"test_a", "a.py"⟩, by decide, rfl⟩
  have hb : IsTestKey "test_b::b.py" := ⟨⟨"test_b", "b.py"⟩, by decide, rfl⟩
  obtain ⟨-, -, hone, -, -, hfull, hown⟩ :=
    compare_inRange (w := ⟨2 / 5, 3 / 10, 1 / 5, 1 / 10⟩) (by norm_num [Weights.All]) ⟨1, 1, 1⟩
      [.insertCoverage "test_a::a.py" shared, .insertCoverage "test_b::b.py" shared,
        .compare "test_b::b.py" "test_a::a.py"] "test_a::a.py" "test_b::b.py"
  have hab := hown (by simp [Op.OnTests, ha, hb]) ha hb
  exact ⟨(hfull hab).coverage shared shared rfl rfl rfl, (hone (by norm_num [Weights.total])).2⟩

/-- A file may be named like the end of one key and the start of another: `b.py:test_c::c.py`. After a
comparison with a test of that file, two tests with the same lines have no line in common. -/
theorem not_fullWhereEqual_of_shared_key :
    let e := (new ⟨1, 1, 1, 1⟩ ⟨1, 1, 1⟩).run
      [.insertCoverage "test_a::a.py:test_b::b.py" shared, .insertCoverage "test_c::c.py" shared,
        .compare "test_a::a.py" "test_b::b.py:test_c::c.py"]
    TestId.ofSimilarityKey? "test_a::a.py:test_b::b.py" = some ⟨"test_a", "a.py:test_b::b.py"⟩ ∧
      TestId.ofSimilarityKey? "test_c::c.py" = some ⟨"test_c", "c.py"⟩ ∧
      ¬ e.FullWhereEqual "test_a::a.py:test_b::b.py" "test_c::c.py"
        (e.compare "test_a::a.py:test_b::b.py" "test_c::c.py").1 := by
  refine ⟨by decide, by decide, fun h => ?_⟩
  have hone := h.coverage shared shared rfl rfl rfl
  exact absurd hone (by decide +kernel)

end Engine

end TestTwins
