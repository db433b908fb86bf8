import TestTwins.Proofs.PairScores
import TestTwins.Proofs.SourceLines

namespace TestTwins

theorem Scalar.ratio_rat (part whole : Nat) : (Scalar.ratio part whole : ℚ) = part / whole := rfl

namespace OrderedSet

variable {s : LineSet} {first last n : Nat}

theorem mem_of_head? (h : s.toList.head? = some first) : first ∈ s := List.mem_of_mem_head? h

theorem mem_of_getLast? (h : s.toList.getLast? = some last) : last ∈ s := List.mem_of_getLast? h

theorem head?_le (h : s.toList.head? = some first) (hn : n ∈ s) : first ≤ n := by
  obtain ⟨rest, hlist⟩ := List.head?_eq_some_iff.1 h
  have hascending := s.ascending
  change n ∈ s.toList at hn
  rw [hlist] at hascending hn
  rcases List.mem_cons.1 hn with rfl | hrest
  · exact le_rfl
  · exact ((List.pairwise_cons.1 hascending).1 n hrest).le

theorem le_getLast? (h : s.toList.getLast? = some last) (hn : n ∈ s) : n ≤ last := by
  obtain ⟨front, hlist⟩ := List.getLast?_eq_some_iff.1 h
  have hascending := s.ascending
  change n ∈ s.toList at hn
  rw [hlist] at hascending hn
  rcases List.mem_append.1 hn with hfront | hlast
  · exact ((List.pairwise_append.1 hascending).2.2 n hfront last List.mem_cons_self).le
  · exact (List.mem_singleton.1 hlast).le

theorem ends_cases (s : LineSet) : s.toList = [] ∨
    ∃ first last, s.toList.head? = some first ∧ s.toList.getLast? = some last := by
  cases hlist : s.toList with
  | nil => exact .inl rfl
  | cons first rest => exact .inr ⟨first, _, rfl, List.getLast?_cons⟩

end OrderedSet

theorem percent_mem_unit {covered total : Nat} (h : covered ≤ total) :
    (percent covered total : ℚ) / 100 ∈ Set.Icc 0 1 := by
  rw [percent]
  split
  · simp
  · have hhundred : (Scalar.ratio covered total * 100 / 100 : ℚ) = Scalar.ratio covered total :=
      mul_div_cancel_right₀ _ (by norm_num)
    change (Scalar.ratio covered total * 100 / 100 : ℚ) ∈ Set.Icc 0 1
    rw [hhundred]
    exact Scalar.ratio_mem_unit h

namespace Fingerprint

theorem density_mem_unit (lines : List Nat) : (density lines : ℚ) ∈ Set.Icc 0 1 := by
  simp only [density]
  split
  · split
    · simp
    · rename_i first last _ _ _
      have hdistance : (0 : ℚ) ≤ Scalar.ratio (last - first) (lines.length - 1) := by
        rw [Scalar.ratio_rat]
        positivity
      change (Scalar.one / (Scalar.one + Scalar.ratio (last - first) (lines.length - 1)) : ℚ) ∈ _
      rw [Scalar.one_rat]
      constructor
      · positivity
      · rw [div_le_one (by positivity)]
        linarith
  · simp

theorem spread_nonneg (lines : List Nat) (total : Nat) : (0 : ℚ) ≤ spread lines total := by
  simp only [spread]
  split
  · rw [Scalar.ratio_rat]
    positivity
  · simp

theorem spread_le_one_iff (lines : LineSet) {total : Nat} (htotal : 0 < total) :
    (spread lines.toList total : ℚ) ≤ 1 ↔ ∀ first ∈ lines, ∀ last ∈ lines, last ≤ first + total := by
  obtain hnone | ⟨first, last, hfirst, hlast⟩ := lines.ends_cases
  · have hempty : ∀ n, n ∉ lines := List.eq_nil_iff_forall_not_mem.1 hnone
    simp [spread, hnone, hempty]
  have hspread : (spread lines.toList total : ℚ) = (last - first : Nat) / total := by
    simp only [spread, hfirst, hlast]
    rfl
  have hpos : (0 : ℚ) < total := Nat.cast_pos.2 htotal
  rw [hspread, div_le_one hpos, Nat.cast_le]
  constructor
  · intro hle m hm n hn
    have hm' := OrderedSet.head?_le hfirst hm
    have hn' := OrderedSet.le_getLast? hlast hn
    omega
  · intro hle
    have hends := hle first (OrderedSet.mem_of_head? hfirst) last (OrderedSet.mem_of_getLast? hlast)
    omega

section Measured

variable (m : Measurement) (disk : Disk) (file : Path) (test : String) (line : Nat) (sources : List Path)

theorem vectorOf_ofSources :
    let r : Record ℚ := .ofSources (m.lookup disk) file test line sources
    vectorOf r = [percent r.linesCovered r.linesTotal / 100, Scalar.ratio r.linesCovered (max r.linesTotal 1),
      Scalar.ratio r.branchesTotal (max r.branchesTotal 1), density r.covered.toList,
      spread r.covered.toList (max r.linesTotal 1)] := rfl

/-- No entry of the vector of a measured record is negative, and the first four are at most one. The fifth
is at most one if and only if no two covered lines are further apart than there are lines that can run. -/
theorem vectorOf_mem_unit_iff :
    let r : Record ℚ := .ofSources (m.lookup disk) file test line sources
    (∀ x ∈ vectorOf r, 0 ≤ x) ∧ (∀ x ∈ (vectorOf r).take 4, x ≤ 1) ∧
      ((∀ x ∈ vectorOf r, x ∈ Set.Icc 0 1) ↔
        ∀ first ∈ r.covered, ∀ last ∈ r.covered, last ≤ first + r.linesTotal) := by
  intro r
  have hcovered : r.linesCovered ≤ r.linesTotal := Nat.le_add_right _ _
  have hpercentage := percent_mem_unit hcovered
  have hlines := Scalar.ratio_mem_unit (hcovered.trans (Nat.le_max_left r.linesTotal 1))
  have hbranches := Scalar.ratio_mem_unit (Nat.le_max_left r.branchesTotal 1)
  have hdensity := density_mem_unit r.covered.toList
  have hspread := spread_nonneg r.covered.toList (max r.linesTotal 1)
  have hrange := spread_le_one_iff r.covered (Nat.one_pos.trans_le (Nat.le_max_right r.linesTotal 1))
  -- Where a line is covered, the total counts it.
  have htotal : (∀ first ∈ r.covered, ∀ last ∈ r.covered, last ≤ first + max r.linesTotal 1) ↔
      ∀ first ∈ r.covered, ∀ last ∈ r.covered, last ≤ first + r.linesTotal := by
    refine forall₂_congr fun first hfirst => ?_
    have hpos : 0 < r.linesCovered := List.length_pos_of_mem hfirst
    rw [Nat.max_eq_left (hpos.trans_le hcovered)]
  rw [htotal] at hrange
  rw [vectorOf_ofSources]
  refine ⟨?_, ?_, ?_⟩
  · simp only [List.forall_mem_cons, List.not_mem_nil, false_implies, implies_true, and_true]
    exact ⟨hpercentage.1, hlines.1, hbranches.1, hdensity.1, hspread⟩
  · simp only [List.take_succ_cons, List.take_zero, List.forall_mem_cons, List.not_mem_nil, false_implies,
      implies_true, and_true]
    exact ⟨hpercentage.2, hlines.2, hbranches.2, hdensity.2⟩
  · simp only [List.forall_mem_cons, List.not_mem_nil, false_implies, implies_true, and_true]
    rw [← hrange]
    exact ⟨fun h => h.2.2.2.2.2, fun h => ⟨hpercentage, hlines, hbranches, hdensity, hspread, h⟩⟩

end Measured

def farApart : Measurement :=
  ⟨.ofList [("a.py", ⟨.ofList [1, 1000], .ofList [1, 1000], 0⟩)], true, none, none⟩

/-- All of the two lines ran, and the spread of the record is nearly five hundred. -/
theorem spread_exceeds_unit :
    let r : Record ℚ := .ofSources (farApart.lookup ⟨[], []⟩) ⟨"tests/test_x.py"⟩ "test_x" 1 [⟨"a.py"⟩]
    r.linesTotal = 2 ∧ 999 / 2 ∈ vectorOf r ∧ ¬ ∀ x ∈ vectorOf r, x ∈ Set.Icc 0 1 := by
  intro r
  have hvector : vectorOf r = [1, 1, 0, 1 / 1000, 999 / 2] := by decide +kernel
  refine ⟨by decide +kernel, by simp [hvector], ?_⟩
  rw [hvector]
  intro hunit
  have hspread := (hunit (999 / 2) (by simp)).2
  norm_num at hspread

end Fingerprint

end TestTwins
