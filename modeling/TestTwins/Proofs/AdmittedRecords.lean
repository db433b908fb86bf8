import TestTwins.Proofs.CoverageJson
import TestTwins.Proofs.DoubleBounds

namespace TestTwins

open Double

section Percent

variable {covered total : Nat}

theorem within_percent (hle : covered ≤ total) (hpos : 0 < total) (hword : total < Word.count) :
    Within (percent covered total) (covered / total * 100) (1 / 10) := by
  have hshare : (covered : ℚ) / total ≤ 1 :=
    div_le_one_of_le₀ (Nat.cast_le.2 hle) (Nat.cast_nonneg _)
  have hhundred := within_ofNat (n := 100) (by decide)
  rw [Nat.cast_ofNat] at hhundred
  rw [percent, if_neg hpos.ne']
  apply (within_ratio hle hpos hword).mul hhundred (by norm_num)
  · linarith
  · linarith

def NearPercent (x : Float) (covered total : Nat) : Prop :=
  ∃ q, value? x.toModel.unpack = some q ∧
    if total = 0 then q = 0 else |q - (covered : ℚ) / total * 100| ≤ 1 / 10

theorem nearPercent_percent (hle : covered ≤ total) (hword : total < Word.count) :
    NearPercent (percent covered total) covered total := by
  rcases total.eq_zero_or_pos with rfl | hpos
  · refine ⟨0, ?_, rfl⟩
    rw [percent, if_pos rfl]
    decide +kernel
  · obtain ⟨q, hq, hnear⟩ := within_percent hle hpos hword
    refine ⟨q, hq.value?, ?_⟩
    rwa [if_neg hpos.ne']

end Percent

theorem OrderedSet.pos_of_zero_notMem {s : LineSet} (h : 0 ∉ s) : ∀ n ∈ s, 0 < n := by
  intro n hn
  apply Nat.pos_of_ne_zero
  rintro rfl
  exact h hn

namespace Record

/-- The sets are apart and hold positive numbers, and the counts and the percentage are those of the
sets. -/
structure Valid (r : Record Float) : Prop where
  apart : ∀ n ∈ r.covered, n ∉ r.missing
  covered_pos : ∀ n ∈ r.covered, 0 < n
  missing_pos : ∀ n ∈ r.missing, 0 < n
  linesCovered : r.linesCovered = r.covered.size
  linesTotal : r.linesTotal = r.linesCovered + r.missing.size
  percentage : NearPercent r.percentage r.linesCovered r.linesTotal

structure Tallied (r : Record Float) : Prop where
  linesCovered : r.linesCovered = r.covered.size
  linesTotal : r.linesTotal = r.linesCovered + r.missing.size
  percentage : r.percentage = percent r.linesCovered r.linesTotal

theorem tallied_ofLines (test : String) (file : Path) (line : Nat) (covered missing : LineSet)
    (branches : Branches) (signature : Option String) :
    (ofLines test file line covered missing branches signature).Tallied :=
  ⟨rfl, rfl, rfl⟩

theorem Tallied.withSignature {r : Record Float} (h : r.Tallied) (signature : String) :
    (r.withSignature signature).Tallied :=
  ⟨h.linesCovered, h.linesTotal, h.percentage⟩

theorem Fits.ofJson_of_pos {r : Record Float} (h : r.Fits) (hcovered : 0 ∉ r.covered)
    (hmissing : 0 ∉ r.missing) : ofJson r.toJson = .ok r := by
  rw [h.ofJson_toJson]
  exact if_neg (not_or.2 ⟨hcovered, hmissing⟩)

/-- What is read as a record has positive line numbers, in sets that are apart. It is valid if its counts
and its percentage are those of its lines, but any others would have been read as well. -/
theorem ofJson_admits {j : Json} {r : Record Float} (h : ofJson j = .ok r) :
    (∀ n ∈ r.covered, 0 < n ∧ n ∉ r.missing) ∧ (∀ n ∈ r.missing, 0 < n) ∧
      (r.Tallied → r.Valid) ∧
      ∀ linesCovered < Word.count, ∀ linesTotal < Word.count, ∀ percentage : Float,
        percentage.isFinite →
        ofJson { r with linesCovered, linesTotal, percentage }.toJson =
          .ok { r with linesCovered, linesTotal, percentage } := by
  obtain ⟨-, hapart, hcovered, hmissing⟩ := ofJson_eq_ok_iff.1 h
  have hfits := fits_of_ofJson h
  have hcovered_pos := OrderedSet.pos_of_zero_notMem hcovered
  have hmissing_pos := OrderedSet.pos_of_zero_notMem hmissing
  refine ⟨fun n hn => ⟨hcovered_pos n hn, hapart n hn⟩, hmissing_pos, ?_, ?_⟩
  · intro htallied
    have hnear : NearPercent r.percentage r.linesCovered r.linesTotal := by
      rw [htallied.percentage]
      exact nearPercent_percent (htallied.linesTotal ▸ Nat.le_add_right _ _) hfits.linesTotal
    exact ⟨hapart, hcovered_pos, hmissing_pos, htallied.linesCovered, htallied.linesTotal, hnear⟩
  -- All that is asked of the counts is that they are words.
  · intro linesCovered hlinesCovered linesTotal hlinesTotal percentage _
    refine Fits.ofJson_of_pos ?_ hcovered hmissing
    exact { hfits with linesCovered := hlinesCovered, linesTotal := hlinesTotal }

theorem ofJson_admits_overlapping :
    (overlapping 1).Valid ∧
      ofJson { overlapping 1 with linesCovered := 9, linesTotal := 4, percentage := 0.5 }.toJson =
        .ok { overlapping 1 with linesCovered := 9, linesTotal := 4, percentage := 0.5 } := by
  have hread : ofJson (overlapping 1).toJson = .ok (overlapping 1) :=
    (obtained_overlapping (by decide)).fits.ofJson_of_pos (by decide) (by decide)
  obtain ⟨-, -, hvalid, hany⟩ := ofJson_admits hread
  exact ⟨hvalid ((tallied_ofLines _ _ _ _ _ _ _).withSignature _),
    hany 9 (by decide) 4 (by decide) 0.5 (by decide +kernel)⟩

def miscounted : Json :=
  .obj [("test_name", .str "test_a"), ("file_path", .str "t.py"), ("line_number", .nat 1),
    ("lines_covered", .nat 9), ("lines_total", .nat 4), ("branches_covered", .nat 0),
    ("branches_total", .nat 0), ("coverage_percentage", .float 0.5), ("covered_lines", .nats [1]),
    ("missing_lines", .nats [2])]

theorem miscounted_admitted :
    ∃ r, ofJson miscounted = .ok r ∧ r.linesCovered ≠ r.covered.size ∧
      r.linesTotal ≠ r.linesCovered + r.missing.size ∧
      ¬ NearPercent r.percentage r.linesCovered r.linesTotal := by
  refine ⟨⟨"test_a", ⟨"t.py"⟩, 1, 9, 4, 0, 0, 0.5, .ofList [1], .ofList [2], none⟩, rfl, by decide,
    by decide, ?_⟩
  rintro ⟨q, hq, hnear⟩
  have hhalf : value? (0.5 : Float).toModel.unpack = some (1 / 2) := by decide +kernel
  obtain rfl : 1 / 2 = q := Option.some.inj (hhalf.symm.trans hq)
  norm_num [abs_le] at hnear

end Record

end TestTwins
