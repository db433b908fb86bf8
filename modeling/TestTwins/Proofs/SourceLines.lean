import TestTwins.Coverage.Measurement
import TestTwins.Proofs.CoverageJson

namespace TestTwins

namespace OrderedSet

theorem mem_foldl_union {sets : List LineSet} {start : LineSet} {n : Nat} :
    n ∈ sets.foldl union start ↔ n ∈ start ∨ ∃ s ∈ sets, n ∈ s := by
  induction sets generalizing start with
  | nil => simp
  | cons s rest ih => rw [List.foldl_cons, ih, mem_union, or_assoc, List.exists_mem_cons_iff]

theorem size_eq_sum_iff {s : LineSet} {sets : List LineSet} (h : ∀ n, n ∈ s ↔ ∃ t ∈ sets, n ∈ t) :
    s.size = (sets.map size).sum ↔ sets.Pairwise fun t u => ∀ n ∈ t, n ∉ u := by
  -- All members in a row: one that two of the sets have in common stands there twice.
  have hrow : ∀ n, n ∈ s.toList ↔ n ∈ sets.flatMap toList := by
    intro n
    rw [List.mem_flatMap]
    exact h n
  have hlength : (sets.flatMap toList).length = (sets.map size).sum := List.length_flatMap
  rw [← hlength, size, length_eq_iff_nodup s.nodup_toList hrow, List.nodup_flatMap]
  exact and_iff_right fun t _ => t.nodup_toList

end OrderedSet

namespace FileLines

@[simp] theorem mem_covered {f : FileLines} {n : Nat} :
    n ∈ f.covered ↔ n ∈ f.executable ∧ n ∈ f.executed := by
  simp [covered]

@[simp] theorem mem_missing {f : FileLines} {n : Nat} :
    n ∈ f.missing ↔ n ∈ f.executable ∧ n ∉ f.executed := by
  simp [missing]

end FileLines

namespace Record

@[simp] theorem mem_unionAll {sets : List LineSet} {n : Nat} :
    n ∈ unionAll sets ↔ ∃ s ∈ sets, n ∈ s := by
  simp [unionAll, OrderedSet.mem_foldl_union]

theorem size_unionAll_map_iff (files : List FileLines) (lines : FileLines → LineSet) :
    (unionAll (files.map lines)).size = (files.map fun f => (lines f).size).sum ↔
      files.Pairwise fun f g => ∀ n ∈ lines f, n ∉ lines g := by
  have h : (unionAll (files.map lines)).size = _ ↔ _ := OrderedSet.size_eq_sum_iff fun _ => mem_unionAll
  rwa [List.map_map, List.pairwise_map] at h

section Sources

variable {K : Type} [Scalar K] (lookup : Path → Option FileLines) (file : Path) (test : String)
  (line : Nat) (sources : List Path)

theorem covered_ofSources :
    (ofSources lookup file test line sources : Record K).covered =
      unionAll ((sources.filterMap lookup).map FileLines.covered) :=
  rfl

theorem missing_ofSources :
    (ofSources lookup file test line sources : Record K).missing =
      (unionAll ((sources.filterMap lookup).map FileLines.missing)).sdiff
        (unionAll ((sources.filterMap lookup).map FileLines.covered)) :=
  rfl

theorem mem_covered_ofSources {n : Nat} :
    n ∈ (ofSources lookup file test line sources : Record K).covered ↔
      ∃ f ∈ sources.filterMap lookup, n ∈ f.executable ∧ n ∈ f.executed := by
  simp only [covered_ofSources, mem_unionAll, List.mem_map, exists_exists_and_eq_and,
    FileLines.mem_covered]

theorem mem_missing_ofSources {n : Nat} :
    n ∈ (ofSources lookup file test line sources : Record K).missing ↔
      (∃ f ∈ sources.filterMap lookup, n ∈ f.executable) ∧
        n ∉ (ofSources lookup file test line sources : Record K).covered := by
  rw [missing_ofSources, OrderedSet.mem_sdiff, ← covered_ofSources (K := K) lookup file test line,
    and_congr_left_iff]
  simp only [mem_unionAll, List.mem_map, exists_exists_and_eq_and, FileLines.mem_missing,
    mem_covered_ofSources]
  -- Only for a line that ran nowhere: a line that did not run in its own source may be another's.
  intro hn
  constructor
  · rintro ⟨f, hf, hexecutable, -⟩
    exact ⟨f, hf, hexecutable⟩
  · rintro ⟨f, hf, hexecutable⟩
    exact ⟨f, hf, hexecutable, fun hexecuted => hn ⟨f, hf, hexecutable, hexecuted⟩⟩

theorem mem_lines_ofSources {n : Nat} :
    n ∈ (ofSources lookup file test line sources : Record K).covered ∨
        n ∈ (ofSources lookup file test line sources : Record K).missing ↔
      ∃ f ∈ sources.filterMap lookup, n ∈ f.executable := by
  rw [mem_missing_ofSources, or_and_left]
  simp only [Classical.em, and_true, or_iff_right_iff_imp]
  intro hn
  obtain ⟨f, hf, hexecutable, -⟩ := (mem_covered_ofSources lookup file test line sources).1 hn
  exact ⟨f, hf, hexecutable⟩

theorem linesTotal_ofSources :
    (ofSources lookup file test line sources : Record K).linesTotal =
      (unionAll ((sources.filterMap lookup).map FileLines.executable)).size := by
  let r : Record K := ofSources lookup file test line sources
  have hunion : ∀ n, n ∈ unionAll ((sources.filterMap lookup).map FileLines.executable) ↔
      ∃ t ∈ [r.covered, r.missing], n ∈ t := by
    intro n
    simpa using (mem_lines_ofSources (K := K) lookup file test line sources).symm
  have hapart : [r.covered, r.missing].Pairwise fun t u => ∀ n ∈ t, n ∉ u := by
    refine List.pairwise_pair.2 fun n hn hn' => ?_
    exact ((mem_missing_ofSources lookup file test line sources).1 hn').2 hn
  have hsum := (OrderedSet.size_eq_sum_iff hunion).2 hapart
  simp only [List.map_cons, List.map_nil, List.sum_cons, List.sum_nil, Nat.add_zero] at hsum
  exact hsum.symm

variable {sources} {sources' : List Path}

theorem unionAll_measured (lines : FileLines → LineSet) (h : ∀ s, s ∈ sources' ↔ s ∈ sources) :
    unionAll ((sources'.filterMap lookup).map lines) = unionAll ((sources.filterMap lookup).map lines) := by
  apply OrderedSet.ext_mem
  simp [h]

theorem lines_ofSources_congr (h : ∀ s, s ∈ sources' ↔ s ∈ sources) :
    (ofSources lookup file test line sources' : Record K).covered =
        (ofSources lookup file test line sources : Record K).covered ∧
      (ofSources lookup file test line sources' : Record K).missing =
        (ofSources lookup file test line sources : Record K).missing := by
  simp only [covered_ofSources, missing_ofSources, unionAll_measured lookup _ h, and_self]

theorem ofSources_perm (h : sources'.Perm sources) :
    { (ofSources lookup file test line sources' : Record K) with signature := none } =
      { (ofSources lookup file test line sources : Record K) with signature := none } := by
  have hunion (lines : FileLines → LineSet) := unionAll_measured lookup lines fun _ => h.mem_iff
  have harcs : ((sources'.filterMap lookup).map FileLines.arcs).foldr (· + ·) 0 =
      ((sources.filterMap lookup).map FileLines.arcs).foldr (· + ·) 0 :=
    ((h.filterMap lookup).map FileLines.arcs).sum_nat
  simp only [ofSources, ofLines, hunion, harcs]

end Sources

section Measured

variable {K : Type} [Scalar K]

/-- The covered lines are those that can run and did in some source, and the missing lines those that can
run in some source and are not covered; the counts are those of the two sets, which are apart, and a line
that can run in no source is in neither. Sources in another order give the same record but for its
signature, and sources given more than once the same lines. -/
theorem ofSources_lines (m : Measurement) (disk : Disk) (file : Path) (test : String)
    (line : Nat) (sources : List Path) :
    let measured := sources.filterMap (m.lookup disk)
    let record (sources : List Path) : Record K := ofSources (m.lookup disk) file test line sources
    (∀ n, n ∈ (record sources).covered ↔ ∃ f ∈ measured, n ∈ f.executable ∧ n ∈ f.executed) ∧
      (∀ n, n ∈ (record sources).missing ↔
        (∃ f ∈ measured, n ∈ f.executable) ∧ n ∉ (record sources).covered) ∧
      (∀ n ∈ (record sources).covered, n ∉ (record sources).missing) ∧
      (record sources).linesCovered = (record sources).covered.size ∧
      (record sources).linesTotal = (record sources).covered.size + (record sources).missing.size ∧
      (∀ n, (∀ f ∈ measured, n ∉ f.executable) →
        n ∉ (record sources).covered ∧ n ∉ (record sources).missing) ∧
      (∀ sources', sources'.Perm sources →
        { record sources' with signature := none } = { record sources with signature := none }) ∧
      ∀ sources', (∀ s, s ∈ sources' ↔ s ∈ sources) →
        (record sources').covered = (record sources).covered ∧
          (record sources').missing = (record sources).missing := by
  intro measured record
  have hcovered (n : Nat) := mem_covered_ofSources (K := K) (m.lookup disk) file test line sources (n := n)
  have hmissing (n : Nat) := mem_missing_ofSources (K := K) (m.lookup disk) file test line sources (n := n)
  refine ⟨hcovered, hmissing, ?_, rfl, rfl, ?_, ?_, ?_⟩
  · intro n hn hn'
    exact ((hmissing n).1 hn').2 hn
  · intro n hn
    rw [← not_or, mem_lines_ofSources]
    rintro ⟨f, hf, hexecutable⟩
    exact hn f hf hexecutable
  · intro sources' h
    exact ofSources_perm (m.lookup disk) file test line h
  · intro sources' h
    exact lines_ofSources_congr (m.lookup disk) file test line h

/-- The total is that of the sources taken together if and only if no line number is in two of them; then
the covered lines are those of the sources too, and the percentage is the share of lines that ran. -/
theorem linesTotal_eq_sum_iff (m : Measurement) (disk : Disk) (file : Path) (test : String)
    (line : Nat) (sources : List Path) :
    let measured := sources.filterMap (m.lookup disk)
    let executable := (measured.map fun f => f.executable.size).sum
    let covered := (measured.map fun f => (f.executable.inter f.executed).size).sum
    let r : Record K := ofSources (m.lookup disk) file test line sources
    (r.linesTotal = executable ↔ measured.Pairwise fun f g => ∀ n ∈ f.executable, n ∉ g.executable) ∧
      (r.linesCovered = covered ↔ measured.Pairwise fun f g => ∀ n ∈ f.covered, n ∉ g.covered) ∧
      (r.linesTotal = executable → r.linesCovered = covered ∧ r.percentage = percent covered executable) := by
  intro measured executable covered r
  have htotal : r.linesTotal = executable ↔
      measured.Pairwise fun f g => ∀ n ∈ f.executable, n ∉ g.executable := by
    rw [linesTotal_ofSources]
    exact size_unionAll_map_iff measured FileLines.executable
  have hcovered : r.linesCovered = covered ↔
      measured.Pairwise fun f g => ∀ n ∈ f.covered, n ∉ g.covered :=
    size_unionAll_map_iff measured FileLines.covered
  refine ⟨htotal, hcovered, ?_⟩
  intro hsum
  have hran : r.linesCovered = covered := by
    refine hcovered.2 ((htotal.1 hsum).imp ?_)
    intro f g hapart n hn hn'
    exact hapart n (FileLines.mem_covered.1 hn).1 (FileLines.mem_covered.1 hn').1
  refine ⟨hran, ?_⟩
  rw [← hran, ← hsum]
  rfl

end Measured

section Shared

def twoFiles (second : List Nat) : Measurement :=
  ⟨.ofList [("a.py", ⟨.ofList [1, 2], .ofList [1, 2], 0⟩), ("b.py", ⟨.ofList second, .empty, 0⟩)], true,
    none, none⟩

def ofBoth (second : List Nat) : Record Float :=
  ofSources ((twoFiles second).lookup ⟨[], []⟩) ⟨"t.py"⟩ "test_a" 1 [⟨"a.py"⟩, ⟨"b.py"⟩]

theorem linesTotal_eq_sum_iff_apart :
    (ofBoth [3, 4]).linesTotal = 2 + 2 ∧ (ofBoth [3, 4]).linesCovered = 2 + 0 ∧
      (ofBoth [3, 4]).percentage = percent (2 + 0) (2 + 2) := by
  have hfiles := linesTotal_eq_sum_iff (K := Float) (twoFiles [3, 4]) ⟨[], []⟩ ⟨"t.py"⟩ "test_a" 1
    [⟨"a.py"⟩, ⟨"b.py"⟩]
  have htotal : (ofBoth [3, 4]).linesTotal = 2 + 2 := hfiles.1.2 (by decide)
  exact ⟨htotal, hfiles.2.2 htotal⟩

/-- Two files of two lines each, one of which ran: half of the lines, but by the record all of them. -/
theorem linesTotal_ne_sum_of_shared :
    (∀ s ∈ ["a.py", "b.py"], ((twoFiles [1, 2]).files.get? s).map (·.executable.size) = some 2) ∧
      (ofBoth [1, 2]).linesTotal ≠ 2 + 2 ∧ (ofBoth [1, 2]).percentage = 100 ∧
      (percent 2 (2 + 2) : Float) = 50 := by
  decide +kernel

end Shared

end Record

end TestTwins
