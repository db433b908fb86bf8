import TestTwins.Proofs.PathAncestors
import TestTwins.Proofs.SourceSelection

namespace TestTwins

namespace Path

variable {p q : Path}

theorem eq_empty_of_isEmpty (h : p.isEmpty) : p = ⟨""⟩ := congrArg Path.mk (by simpa [isEmpty] using h)

theorem ancestors_of_isEmpty (h : p.isEmpty) : p.ancestors = [] := by
  rw [eq_empty_of_isEmpty h]
  rfl

theorem parent?_of_ancestors {rest : List Path} (h : p.ancestors = q :: rest) :
    p.parent? = some q ∧ q.ancestors = rest := by
  cases hparent : p.parent? with
  | none =>
    rw [ancestors_of_parent?_eq_none hparent] at h
    cases h
  | some r =>
    rw [ancestors_of_parent? hparent] at h
    cases h
    exact ⟨rfl, rfl⟩

theorem exists_name_of_parent? (h : p.parent? = some q) : ∃ name, p.names = q.names ++ [name] := by
  have hne : p.names ≠ [] := by
    intro hnil
    rw [parent?_eq_none_iff.2 hnil] at h
    cases h
  exact ⟨p.names.getLast hne, by rw [(names_of_parent? h).2, List.dropLast_concat_getLast]⟩

theorem mem_takeWhile_ancestors (hq : q ∈ p.ancestors) (hnamed : q.isEmpty = false) :
    q ∈ p.ancestors.takeWhile (!·.isEmpty) := by
  induction hchain : p.ancestors generalizing p with
  | nil =>
    rw [hchain] at hq
    cases hq
  | cons r rest ih =>
    obtain ⟨-, hrest⟩ := parent?_of_ancestors hchain
    rw [hchain] at hq
    by_cases hempty : r.isEmpty
    · rw [ancestors_of_isEmpty hempty] at hrest
      rw [← hrest] at hq
      rw [List.mem_singleton.1 hq, hempty] at hnamed
      cases hnamed
    · rw [List.takeWhile_cons_of_pos (by simpa using hempty)]
      rcases List.mem_cons.1 hq with rfl | hq
      · exact List.mem_cons_self
      · exact List.mem_cons_of_mem r (ih (hrest ▸ hq) hrest)

end Path

namespace Sources

variable {d : Disk} {file root : Path}

inductive Leads (d : Disk) : Path → List String → Path → Prop
  | file {directory file : Path} {name : String} (hparent : file.parent? = some directory)
      (hname : file.names = directory.names ++ [name]) : Leads d directory [name] file
  | package {directory package file : Path} {name : String} {names : List String}
      (hparent : package.parent? = some directory) (hname : package.names = directory.names ++ [name])
      (hpackage : isPackage d package) (hleads : Leads d package names file) :
      Leads d directory (name :: names) file

theorem Leads.names_eq {names : List String} (h : Leads d root names file) :
    file.names = root.names ++ names := by
  induction h with
  | file _ hname => exact hname
  | package _ hname _ _ ih => rw [ih, hname, List.append_assoc, List.singleton_append]

/-- A directory from which a file has its full name: it is the nearest above that is no package, and
packages lead from there to the file. -/
structure IsImportRoot (d : Disk) (file root : Path) : Prop where
  outside : isPackage d root = false
  nearest : ∃ between above, file.ancestors = between ++ root :: above ∧ ∀ p ∈ between, isPackage d p
  leads : ∃ names, Leads d root names file ∧ file.names = root.names ++ names

theorem leads_of_above {p : Path} {between above : List Path}
    (hstep : ∀ q, p.parent? = some q → ∃ names, Leads d q names file)
    (h : p.ancestors = between ++ root :: above) (hbetween : ∀ q ∈ between, isPackage d q) :
    ∃ names, Leads d root names file := by
  induction between generalizing p with
  | nil => exact hstep root (Path.parent?_of_ancestors h).1
  | cons q between ih =>
    obtain ⟨hparent, habove⟩ := Path.parent?_of_ancestors h
    obtain ⟨hq, hbetween⟩ := List.forall_mem_cons.1 hbetween
    obtain ⟨names, hleads⟩ := hstep q hparent
    refine ih (fun directory hdirectory => ?_) habove hbetween
    obtain ⟨name, hname⟩ := Path.exists_name_of_parent? hdirectory
    exact ⟨name :: names, .package hdirectory hname hq hleads⟩

theorem leads_of_ancestors {between above : List Path} (h : file.ancestors = between ++ root :: above)
    (hbetween : ∀ p ∈ between, isPackage d p) : ∃ names, Leads d root names file := by
  refine leads_of_above (fun directory hparent => ?_) h hbetween
  obtain ⟨name, hname⟩ := Path.exists_name_of_parent? hparent
  exact ⟨[name], .file hparent hname⟩

theorem exists_firstOutside (d : Disk) (p : Path) (rest : List Path) :
    ∃ root ∈ p :: rest, firstOutside d (p :: rest) = some root := by
  induction rest generalizing p with
  | nil => exact ⟨p, List.mem_cons_self, rfl⟩
  | cons q rest ih =>
    rw [firstOutside]
    split
    · obtain ⟨root, hroot, heq⟩ := ih q
      exact ⟨root, List.mem_cons_of_mem p hroot, heq⟩
    · exact ⟨p, List.mem_cons_self, rfl⟩

theorem firstOutside_eq {ps : List Path} (h : firstOutside d ps = some root) :
    ∃ between above, ps = between ++ root :: above ∧ (∀ p ∈ between, isPackage d p) ∧
      (isPackage d root = false ∨ above = []) := by
  fun_induction firstOutside d ps with
  | case1 => cases h
  | case2 p =>
    obtain rfl := Option.some.inj h
    exact ⟨[], [], rfl, by simp, .inr rfl⟩
  | case3 p q rest hp ih =>
    obtain ⟨between, above, heq, hbetween, hroot⟩ := ih h
    exact ⟨p :: between, above, by rw [heq, List.cons_append], by simpa [hp] using hbetween, hroot⟩
  | case4 p q rest hp =>
    obtain rfl := Option.some.inj h
    exact ⟨[], q :: rest, rfl, by simp, .inl (by simpa using hp)⟩

theorem packageRoot_eq (d : Disk) (file : Path) :
    packageRoot d file = firstOutside d (file.ancestors.takeWhile (!·.isEmpty)) := by
  rw [packageRoot]
  split
  · rename_i hnone
    rw [hnone]
    rfl
  · rename_i p rest hchain
    by_cases hempty : p.isEmpty
    · obtain ⟨-, hrest⟩ := Path.parent?_of_ancestors hchain
      rw [Path.ancestors_of_isEmpty hempty] at hrest
      simp [hchain, ← hrest, hempty, firstOutside]
    · have hkeep : (p :: rest).takeWhile (!·.isEmpty) = p :: rest.takeWhile (!·.isEmpty) :=
        List.takeWhile_cons_of_pos (by simpa using hempty)
      obtain ⟨root, hroot, heq⟩ := exists_firstOutside d p (rest.takeWhile (!·.isEmpty))
      rw [← hkeep] at hroot
      have hnamed : root.isEmpty = false := by simpa using List.mem_takeWhile_imp hroot
      rw [hchain, hkeep, heq]
      simp [Option.filter, hnamed]

theorem packageRoot_eq_none_iff : packageRoot d file = none ↔ ∀ p ∈ file.parent?, p.isEmpty := by
  rw [packageRoot_eq]
  cases hparent : file.parent? with
  | none => simp [Path.ancestors_of_parent?_eq_none hparent, firstOutside]
  | some p =>
    rw [Path.ancestors_of_parent? hparent]
    by_cases hempty : p.isEmpty
    · simp [hempty, firstOutside]
    · obtain ⟨root, -, heq⟩ := exists_firstOutside d p (p.ancestors.takeWhile (!·.isEmpty))
      rw [List.takeWhile_cons_of_pos (by simpa using hempty), heq]
      simpa using hempty

theorem isImportRoot_iff (h : packageRoot d file = some root) :
    IsImportRoot d file root ↔ ∃ p ∈ file.ancestors, p.isEmpty = false ∧ isPackage d p = false := by
  rw [packageRoot_eq] at h
  obtain ⟨between, above, hchain, hbetween, hroot⟩ := firstOutside_eq h
  have hall : file.ancestors = between ++ root :: (above ++ file.ancestors.dropWhile (!·.isEmpty)) := by
    conv_lhs => rw [← List.takeWhile_append_dropWhile (p := (!·.isEmpty)) (l := file.ancestors), hchain]
    simp
  constructor
  · intro himport
    have hmem : root ∈ file.ancestors.takeWhile (!·.isEmpty) := by simp [hchain]
    exact ⟨root, (List.takeWhile_sublist _).subset hmem, by simpa using List.mem_takeWhile_imp hmem,
      himport.outside⟩
  · rintro ⟨p, hp, hnamed, houtside⟩
    have hmem := Path.mem_takeWhile_ancestors hp hnamed
    have hfree : isPackage d root = false := by
      rcases hroot with hroot | rfl
      · exact hroot
      · rw [hchain] at hmem
        rcases List.mem_append.1 hmem with hmem | hmem
        · rw [hbetween p hmem] at houtside
          cases houtside
        · rwa [← List.mem_singleton.1 hmem]
    obtain ⟨names, hleads⟩ := leads_of_ancestors hall hbetween
    exact ⟨hfree, ⟨between, _, hall, hbetween⟩, names, hleads, hleads.names_eq⟩

/-- The directories that imports start from are all different. Each is that of the test file or of a
source, or the one above that of the test file. A file has one unless it stands in the working
directory by its empty name; it has its full name from there if and only if some directory above it,
other than that one, is no package. -/
theorem importRoots_outside (d : Disk) (testFile : Path) (sources : List Path) :
    let roots := importRoots d testFile sources
    roots.Pairwise (fun p q => p.same q = false) ∧
      (∀ root ∈ roots, (∃ file ∈ testFile :: sources, packageRoot d file = some root) ∨
        testFile.parent?.bind Path.parent? = some root) ∧
      ∀ file ∈ testFile :: sources,
        (packageRoot d file = none ↔ ∀ p ∈ file.parent?, p.isEmpty) ∧
          ∀ root, packageRoot d file = some root → Path.contains roots root ∧
            (IsImportRoot d file root ↔
              ∃ p ∈ file.ancestors, p.isEmpty = false ∧ isPackage d p = false) := by
  intro roots
  refine ⟨Path.pairwise_foldl_pushNew .nil _, fun root hroot => ?_, fun file hfile =>
    ⟨packageRoot_eq_none_iff, fun root hroot => ⟨?_, isImportRoot_iff hroot⟩⟩⟩
  · obtain hnone | hmem := Path.mem_foldl_pushNew hroot
    · cases hnone
    rcases List.mem_append.1 hmem with hmem | hmem
    · exact .inl (List.mem_filterMap.1 hmem)
    · exact .inr (Option.filter_eq_some_iff.1 (Option.mem_toList.1 hmem)).1
  · exact Path.contains_foldl_pushNew
      (List.mem_append_left _ (List.mem_filterMap.2 ⟨file, hfile, hroot⟩))

def nestedDisk : Disk :=
  .ofFiles [(⟨"/proj/src/app/__init__.py"⟩, ""), (⟨"/proj/src/app/core/__init__.py"⟩, ""),
    (⟨"/proj/src/app/core/engine.py"⟩, ""), (⟨"/proj/tests/test_engine.py"⟩, "")]

theorem importRoots_outside_nested :
    let engine : Path := ⟨"/proj/src/app/core/engine.py"⟩
    importRoots nestedDisk ⟨"/proj/tests/test_engine.py"⟩ [engine] =
        [⟨"/proj/tests"⟩, ⟨"/proj/src"⟩, ⟨"/proj"⟩] ∧
      IsImportRoot nestedDisk engine ⟨"/proj/src"⟩ := by
  intro engine
  have hroot : packageRoot nestedDisk engine = some ⟨"/proj/src"⟩ := by decide +kernel
  obtain ⟨-, -, hfiles⟩ := importRoots_outside nestedDisk ⟨"/proj/tests/test_engine.py"⟩ [engine]
  obtain ⟨-, hiff⟩ := (hfiles engine (by simp)).2 _ hroot
  exact ⟨by decide +kernel, hiff.2 ⟨⟨"/proj"⟩, by decide +kernel, by decide +kernel, by decide +kernel⟩⟩

def packageDisk : Disk :=
  .ofFiles [(⟨"pkg/__init__.py"⟩, ""), (⟨"pkg/mod.py"⟩, ""), (⟨"tests/test_a.py"⟩, "")]

/-- By a relative path the file of a package has the package itself as its root, though the directory above
is no package. -/
theorem packageRoot_of_relative :
    importRoots packageDisk ⟨"tests/test_a.py"⟩ [⟨"pkg/mod.py"⟩] = [⟨"tests"⟩, ⟨"pkg"⟩] ∧
      packageRoot packageDisk ⟨"pkg/mod.py"⟩ = some ⟨"pkg"⟩ ∧
      Path.ancestors ⟨"pkg/mod.py"⟩ = [⟨"pkg"⟩, ⟨""⟩] ∧ isPackage packageDisk ⟨""⟩ = false ∧
      ¬ IsImportRoot packageDisk ⟨"pkg/mod.py"⟩ ⟨"pkg"⟩ := by
  have hpackage : isPackage packageDisk ⟨"pkg"⟩ = true := by decide +kernel
  refine ⟨by decide +kernel, by decide +kernel, by decide +kernel, by decide +kernel, fun hroot => ?_⟩
  rw [hroot.outside] at hpackage
  cases hpackage

end Sources

end TestTwins
