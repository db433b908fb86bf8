import TestTwins.Coverage.Record
import TestTwins.Proofs.RecordText
import TestTwins.Proofs.ScoreLaws

namespace TestTwins

namespace OrderedSet

theorem ofList_toList (s : LineSet) : ofList s.toList = s := by
  apply ext_mem
  intro a
  rw [mem_ofList]
  rfl

theorem size_le_of_lt {s : LineSet} {bound : Nat} (h : ∀ n ∈ s, n < bound) : s.size ≤ bound := by
  have hsub : s.toList ⊆ List.range bound := fun n hn => List.mem_range.2 (h n hn)
  have hlength := (List.subperm_of_subset s.nodup_toList hsub).length_le
  rwa [List.length_range] at hlength

@[simp] theorem mem_sdiff {s t : LineSet} {a : Nat} : a ∈ s.sdiff t ↔ a ∈ s ∧ a ∉ t := by
  simp [sdiff]

end OrderedSet

namespace Json

variable {α : Type}

theorem exists_of_field {ms : Members} {key : String} {decode : Json → Option α} {a : α}
    (h : ms.field key decode = some a) : ∃ j, decode j = some a := by
  simp only [Members.field] at h
  split at h
  · exact ⟨_, h⟩
  · cases h

theorem lt_of_asNatBelow {bound n : Nat} {j : Json} (h : asNatBelow bound j = some n) : n < bound := by
  simp only [asNatBelow] at h
  split at h
  · split at h
    · rename_i hlt
      cases h
      exact hlt
    · cases h
  · cases h

theorem lt_of_field {ms : Members} {key : String} {bound n : Nat}
    (h : ms.field key (asNatBelow bound) = some n) : n < bound := by
  obtain ⟨j, hj⟩ := exists_of_field h
  exact lt_of_asNatBelow hj

theorem exists_of_mem_asList {item : Json → Option α} {j : Json} {as : List α}
    (h : asList item j = some as) {a : α} (ha : a ∈ as) : ∃ j, item j = some a := by
  simp only [asList] at h
  split at h
  · rename_i items
    induction items generalizing as with
    | nil =>
      cases h
      cases ha
    | cons i items ih =>
      rw [List.mapM_cons] at h
      obtain ⟨b, hb, h⟩ := Option.bind_eq_some_iff.1 h
      obtain ⟨bs, hbs, h⟩ := Option.bind_eq_some_iff.1 h
      cases h
      rcases List.mem_cons.1 ha with rfl | ha
      · exact ⟨i, hb⟩
      · exact ih ha hbs
  · cases h

end Json

namespace Record

def lineCount : Nat := 0x100000000

/-- The records that there are: of lines, without lines, read from a value, or signed anew. Line numbers
have 32 bits and counts 64. -/
inductive Obtained : Record Float → Prop
  | ofLines (test : String) (file : Path) {line : Nat} {covered missing : LineSet} {branches : Branches}
    (signature : Option String) (line_lt : line < lineCount) (covered_lt : ∀ n ∈ covered, n < lineCount)
    (missing_lt : ∀ n ∈ missing, n < lineCount) (branches_covered_lt : branches.covered < Word.count)
    (branches_total_lt : branches.total < Word.count) :
    Obtained (ofLines test file line covered missing branches signature)
  | empty (test : String) (file : Path) {line : Nat} (line_lt : line < lineCount) :
    Obtained (empty test file line)
  | ofJson {j : Json} {r : Record Float} (h : ofJson j = .ok r) : Obtained r
  | withSignature {r : Record Float} (h : Obtained r) (signature : String) :
    Obtained (r.withSignature signature)

structure Fits (r : Record Float) : Prop where
  line : r.line < lineCount
  linesCovered : r.linesCovered < Word.count
  linesTotal : r.linesTotal < Word.count
  branchesCovered : r.branchesCovered < Word.count
  branchesTotal : r.branchesTotal < Word.count
  covered : ∀ n ∈ r.covered, n < lineCount
  missing : ∀ n ∈ r.missing, n < lineCount
  apart : ∀ n ∈ r.covered, n ∉ r.missing

theorem fits_ofLines (test : String) (file : Path) {line : Nat} {covered missing : LineSet}
    {branches : Branches} (signature : Option String) (hline : line < lineCount)
    (hcovered : ∀ n ∈ covered, n < lineCount) (hmissing : ∀ n ∈ missing, n < lineCount)
    (hbranches : branches.covered < Word.count) (htotal : branches.total < Word.count) :
    (ofLines test file line covered missing branches signature).Fits := by
  have hrest : ∀ n ∈ missing.sdiff covered, n < lineCount :=
    fun n hn => hmissing n (OrderedSet.mem_sdiff.1 hn).1
  have hsize := OrderedSet.size_le_of_lt hcovered
  have hsize' := OrderedSet.size_le_of_lt hrest
  have hbound : lineCount + lineCount < Word.count := by decide
  exact {
    line := hline
    linesCovered := show covered.size < Word.count by omega
    linesTotal := show covered.size + (missing.sdiff covered).size < Word.count by omega
    branchesCovered := hbranches
    branchesTotal := htotal
    covered := hcovered
    missing := hrest
    apart := fun n hn hn' => (OrderedSet.mem_sdiff.1 hn').2 hn }

theorem lt_of_asLineSet {ms : Json.Members} {key : String} {s : LineSet}
    (h : ms.field key asLineSet = some s) : ∀ n ∈ s, n < lineCount := by
  intro n hn
  obtain ⟨j, hj⟩ := Json.exists_of_field h
  obtain ⟨lines, hlines, rfl⟩ := Option.map_eq_some_iff.1 hj
  obtain ⟨i, hi⟩ := Json.exists_of_mem_asList hlines (OrderedSet.mem_ofList.1 hn)
  exact Json.lt_of_asNatBelow hi

structure Reads (ms : Json.Members) (r : Record Float) : Prop where
  test : ms.field "test_name" Json.asString = some r.test
  file : ms.field "file_path" Json.asString = some r.file.text
  line : ms.field "line_number" Json.asLine = some r.line
  linesCovered : ms.field "lines_covered" Json.asWord = some r.linesCovered
  linesTotal : ms.field "lines_total" Json.asWord = some r.linesTotal
  branchesCovered : ms.field "branches_covered" Json.asWord = some r.branchesCovered
  branchesTotal : ms.field "branches_total" Json.asWord = some r.branchesTotal
  percentage : ms.field "coverage_percentage" Json.asFloat = some r.percentage
  covered : ms.field "covered_lines" asLineSet = some r.covered
  missing : ms.field "missing_lines" asLineSet = some r.missing
  signature : ms.fieldD "coverage_signature" (Json.asOption Json.asString) none = some r.signature

theorem decode?_eq_some_iff {j : Json} {r : Record Float} :
    decode? j = some r ↔ ∃ ms, j.members fields = some ms ∧ Reads ms r := by
  constructor
  · intro h
    obtain ⟨ms, hms, h⟩ := Option.bind_eq_some_iff.1 h
    obtain ⟨test, htest, h⟩ := Option.bind_eq_some_iff.1 h
    obtain ⟨file, hfile, h⟩ := Option.bind_eq_some_iff.1 h
    obtain ⟨line, hline, h⟩ := Option.bind_eq_some_iff.1 h
    obtain ⟨linesCovered, hlinesCovered, h⟩ := Option.bind_eq_some_iff.1 h
    obtain ⟨linesTotal, hlinesTotal, h⟩ := Option.bind_eq_some_iff.1 h
    obtain ⟨branchesCovered, hbranchesCovered, h⟩ := Option.bind_eq_some_iff.1 h
    obtain ⟨branchesTotal, hbranchesTotal, h⟩ := Option.bind_eq_some_iff.1 h
    obtain ⟨percentage, hpercentage, h⟩ := Option.bind_eq_some_iff.1 h
    obtain ⟨covered, hcovered, h⟩ := Option.bind_eq_some_iff.1 h
    obtain ⟨missing, hmissing, h⟩ := Option.bind_eq_some_iff.1 h
    obtain ⟨signature, hsignature, h⟩ := Option.bind_eq_some_iff.1 h
    cases h
    exact ⟨ms, hms, htest, hfile, hline, hlinesCovered, hlinesTotal, hbranchesCovered, hbranchesTotal,
      hpercentage, hcovered, hmissing, hsignature⟩
  · rintro ⟨ms, hms, h⟩
    refine Option.bind_eq_some_iff.2 ⟨ms, hms, ?_⟩
    refine Option.bind_eq_some_iff.2 ⟨_, h.test, ?_⟩
    refine Option.bind_eq_some_iff.2 ⟨_, h.file, ?_⟩
    refine Option.bind_eq_some_iff.2 ⟨_, h.line, ?_⟩
    refine Option.bind_eq_some_iff.2 ⟨_, h.linesCovered, ?_⟩
    refine Option.bind_eq_some_iff.2 ⟨_, h.linesTotal, ?_⟩
    refine Option.bind_eq_some_iff.2 ⟨_, h.branchesCovered, ?_⟩
    refine Option.bind_eq_some_iff.2 ⟨_, h.branchesTotal, ?_⟩
    refine Option.bind_eq_some_iff.2 ⟨_, h.percentage, ?_⟩
    refine Option.bind_eq_some_iff.2 ⟨_, h.covered, ?_⟩
    refine Option.bind_eq_some_iff.2 ⟨_, h.missing, ?_⟩
    refine Option.bind_eq_some_iff.2 ⟨_, h.signature, ?_⟩
    rfl

theorem ofJson_eq_ok_iff {j : Json} {r : Record Float} :
    ofJson j = .ok r ↔
      decode? j = some r ∧ (∀ n ∈ r.covered, n ∉ r.missing) ∧ 0 ∉ r.covered ∧ 0 ∉ r.missing := by
  cases hdecode : decode? j with
  | none => simp [Record.ofJson, hdecode]
  | some r' =>
    have hshared : r'.covered.toList.any (· ∈ r'.missing) = true ↔
        ¬ ∀ n ∈ r'.covered, n ∉ r'.missing := by
      simp [Membership.mem]
    simp only [Record.ofJson, hdecode, hshared, Option.some.injEq, Bool.or_eq_true, decide_eq_true_eq]
    split_ifs with hapart hzero
    · rw [false_iff]
      rintro ⟨rfl, -, hcovered, hmissing⟩
      exact hzero.elim hcovered hmissing
    · rw [Except.ok.injEq]
      constructor
      · rintro rfl
        exact ⟨rfl, hapart, not_or.1 hzero⟩
      · exact And.left
    · rw [false_iff]
      rintro ⟨rfl, h, -⟩
      exact hapart h

theorem fits_of_ofJson {j : Json} {r : Record Float} (h : ofJson j = .ok r) : r.Fits := by
  obtain ⟨hdecode, hapart, -⟩ := ofJson_eq_ok_iff.1 h
  obtain ⟨ms, -, hreads⟩ := decode?_eq_some_iff.1 hdecode
  exact {
    line := Json.lt_of_field hreads.line
    linesCovered := Json.lt_of_field hreads.linesCovered
    linesTotal := Json.lt_of_field hreads.linesTotal
    branchesCovered := Json.lt_of_field hreads.branchesCovered
    branchesTotal := Json.lt_of_field hreads.branchesTotal
    covered := lt_of_asLineSet hreads.covered
    missing := lt_of_asLineSet hreads.missing
    apart := hapart }

theorem Obtained.fits {r : Record Float} (h : Obtained r) : r.Fits := by
  induction h with
  | ofLines test file signature hline hcovered hmissing hbranches htotal =>
    exact fits_ofLines test file signature hline hcovered hmissing hbranches htotal
  | empty test file hline =>
    exact fits_ofLines test file none hline (by simp) (by simp) (by decide) (by decide)
  | ofJson h => exact fits_of_ofJson h
  | withSignature _ _ ih =>
    exact ⟨ih.line, ih.linesCovered, ih.linesTotal, ih.branchesCovered, ih.branchesTotal, ih.covered,
      ih.missing, ih.apart⟩

theorem asLineSet_nats {s : LineSet} (h : ∀ n ∈ s, n < lineCount) :
    asLineSet (.nats s.toList) = some s := by
  have hlines : (Json.nats s.toList).asList Json.asLine = some s.toList := Json.asList_nats h
  rw [asLineSet, hlines, Option.map_some, OrderedSet.ofList_toList]

theorem asOption_option (s : Option String) :
    Json.asOption Json.asString (.option .str s) = some s := by
  cases s <;> rfl

theorem Fits.decode? {r : Record Float} (h : r.Fits) : decode? r.toJson = some r :=
  decode?_eq_some_iff.2 ⟨_, Json.members_obj rfl (by decide), {
    test := rfl
    file := rfl
    line := Json.asNatBelow_nat h.line
    linesCovered := Json.asNatBelow_nat h.linesCovered
    linesTotal := Json.asNatBelow_nat h.linesTotal
    branchesCovered := Json.asNatBelow_nat h.branchesCovered
    branchesTotal := Json.asNatBelow_nat h.branchesTotal
    percentage := rfl
    covered := asLineSet_nats h.covered
    missing := asLineSet_nats h.missing
    signature := asOption_option r.signature }⟩

theorem Fits.ofJson_toJson {r : Record Float} (h : r.Fits) :
    ofJson r.toJson =
      if 0 ∈ r.covered ∨ 0 ∈ r.missing then .error (.invalidRecord "line numbers must be positive")
      else .ok r := by
  have hapart : ¬ r.covered.toList.any (· ∈ r.missing) := by
    simp only [List.any_eq_true, decide_eq_true_eq, not_exists, not_and]
    exact h.apart
  simp only [ofJson, h.decode?, if_neg hapart, Bool.or_eq_true, decide_eq_true_eq]

/-- A record survives its JSON value in every field if and only if it does not have the line number zero;
a record that has it is refused for that reason. -/
theorem ofJson_toJson_iff {r : Record Float} (h : Obtained r) :
    (ofJson r.toJson = .ok r ↔ 0 ∉ r.covered ∧ 0 ∉ r.missing) ∧
      (0 ∈ r.covered ∨ 0 ∈ r.missing →
        ofJson r.toJson = .error (.invalidRecord "line numbers must be positive")) := by
  rw [h.fits.ofJson_toJson, ← not_or]
  by_cases hzero : 0 ∈ r.covered ∨ 0 ∈ r.missing <;> simp [hzero]

def overlapping (first : Nat) : Record Float :=
  (ofLines "test_a" ⟨"t.py"⟩ 7 (.ofList [first, 3]) (.ofList [2, 3]) ⟨1, 4⟩ none).withSignature "a:2"

theorem obtained_overlapping {first : Nat} (h : first < 3) : (overlapping first).Obtained := by
  refine .withSignature (.ofLines _ _ _ (by decide) ?_ ?_ (by decide) (by decide)) _
  · intro n hn
    rw [OrderedSet.mem_ofList] at hn
    simp only [List.mem_cons, List.not_mem_nil, or_false] at hn
    rw [lineCount]
    omega
  · intro n hn
    rw [OrderedSet.mem_ofList] at hn
    simp only [List.mem_cons, List.not_mem_nil, or_false] at hn
    rw [lineCount]
    omega

theorem ofJson_toJson_iff_overlapping :
    ofJson (overlapping 1).toJson = .ok (overlapping 1) ∧
      ofJson (overlapping 0).toJson = .error (.invalidRecord "line numbers must be positive") :=
  ⟨(ofJson_toJson_iff (obtained_overlapping (by decide))).1.2 (by decide),
    (ofJson_toJson_iff (obtained_overlapping (by decide))).2 (by decide)⟩

end Record

end TestTwins
