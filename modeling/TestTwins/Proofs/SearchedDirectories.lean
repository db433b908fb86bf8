import TestTwins.Proofs.PathAncestors
import TestTwins.Proofs.SourceSelection

/-! Where source files are searched for. The walk up from a test goes as far as it may; packages are looked
for in the directories it comes through, and files in the packages, in `src` and `lib` beside the
directory of the test, and beside what the test imports. The walk keeps out of the directories of the
system, by their texts; `src` and `lib` are not asked for theirs. -/

namespace TestTwins

namespace Disk

variable {d : Disk} {p : Path}

theorem isDirectory_iff : d.isDirectory p ↔ ∃ place, d.find p = .ok (place, .directory) := by
  rw [isDirectory]
  split
  · rename_i place hfind
    exact ⟨fun _ => ⟨place, hfind⟩, fun _ => rfl⟩
  · rename_i hnone
    simp only [Bool.false_eq_true, false_iff, not_exists]
    exact hnone

theorem isDirectory_iff_list : d.isDirectory p ↔ ∃ names, d.list p = .ok names := by
  rw [isDirectory_iff, list]
  cases hfind : d.find p with
  | error e => simp [bind, Except.bind]
  | ok found =>
    obtain ⟨place, e⟩ := found
    cases e <;> simp [bind, Except.bind, pure, Except.pure, throw, throwThe, MonadExceptOf.throw]

theorem IsTree.isName_of_list (hd : d.IsTree) {names : List String} (h : d.list p = .ok names) :
    ∀ name ∈ names, Path.IsName name := by
  intro name hname
  obtain ⟨⟨place, e⟩, -, h⟩ := exists_of_bind_ok h
  cases e with
  | file f => cases h
  | directory =>
    cases h
    obtain ⟨entry, hentry, hchild⟩ := List.mem_filterMap.1 hname
    simp only [childName?] at hchild
    split at hchild
    · exact (hd.names entry hentry name (List.mem_of_getLast? hchild)).1
    · cases hchild

end Disk

namespace Sources

structure Passable (d : Disk) (p : Path) : Prop where
  named : p.isEmpty = false
  listable : ∃ names, d.list p = .ok names
  ordinary : p.text ∉ systemDirectories

/-- The walk up from a path: as many of its ancestors, from the nearest on, as there are up to a depth and
up to the first that may not be passed. -/
structure IsWalk (d : Disk) (start : Path) (depth : Nat) (walk : List Path) : Prop where
  initial : walk <+: start.ancestors
  length_le : walk.length ≤ depth
  passable : ∀ p ∈ walk, Passable d p
  longest : ∀ other, other <+: start.ancestors → other.length ≤ depth → (∀ p ∈ other, Passable d p) →
    other <+: walk

section Walk

variable {d : Disk} {start : Path}

theorem isSafe_iff {p : Path} : isSafe d p ↔ Passable d p := by
  simp only [isSafe, Bool.and_eq_true, Bool.not_eq_true', Disk.isDirectory_iff_list]
  constructor
  · rintro ⟨⟨hnamed, hordinary⟩, hlistable⟩
    exact ⟨hnamed, hlistable, by simpa [isSystemDirectory] using hordinary⟩
  · rintro ⟨hnamed, hlistable, hordinary⟩
    exact ⟨⟨hnamed, by simpa [isSystemDirectory] using hordinary⟩, hlistable⟩

theorem isPrefix_takeWhile {α : Type} {keep : α → Bool} {other all : List α} (h : other <+: all)
    (hkeep : ∀ a ∈ other, keep a) : other <+: all.takeWhile keep := by
  obtain ⟨rest, rfl⟩ := h
  rw [List.takeWhile_append_of_pos hkeep]
  exact List.prefix_append _ _

theorem isWalk_take (d : Disk) (start : Path) (depth : Nat) :
    IsWalk d start depth ((start.ancestors.takeWhile (isSafe d)).take depth) where
  initial := (List.take_prefix _ _).trans (List.takeWhile_prefix _)
  length_le := List.length_take_le _ _
  passable _ hp := isSafe_iff.1 (List.mem_takeWhile_imp (List.mem_of_mem_take hp))
  longest _ hother hlength hpass := List.prefix_take_iff.2
    ⟨isPrefix_takeWhile hother fun p hp => isSafe_iff.2 (hpass p hp), hlength⟩

theorem takeWhile_isSafe_eq_nil_iff :
    start.ancestors.takeWhile (isSafe d) = [] ↔ ∀ p ∈ start.parent?, ¬ Passable d p := by
  cases hparent : start.parent? with
  | none => simp [Path.ancestors_of_parent?_eq_none hparent]
  | some q => simp [Path.ancestors_of_parent? hparent, List.takeWhile_cons, ← isSafe_iff]

/-- The directories above a path through which a search goes are its walk up, except that the nearest one
is taken even at depth zero. -/
theorem safeParents_isWalk (d : Disk) (limits : Limits) (start : Path) :
    IsWalk d start (max 1 limits.parentDepth) (safeParents d limits start) ∧
      (IsWalk d start limits.parentDepth (safeParents d limits start) ↔
        0 < limits.parentDepth ∨ ∀ p ∈ start.parent?, ¬ Passable d p) := by
  refine ⟨isWalk_take d start _, ?_⟩
  constructor
  · intro hwalk
    rw [← takeWhile_isSafe_eq_nil_iff, or_iff_not_imp_left]
    intro hzero
    have hlength := hwalk.length_le
    rw [safeParents, List.length_take] at hlength
    rw [← List.length_eq_zero_iff]
    omega
  · rintro (hpos | hnone)
    · have hdepth : max 1 limits.parentDepth = limits.parentDepth := Nat.max_eq_right hpos
      rw [safeParents, hdepth]
      exact isWalk_take d start _
    · have hwalk := isWalk_take d start limits.parentDepth
      rw [takeWhile_isSafe_eq_nil_iff.2 hnone, List.take_nil] at hwalk
      rwa [safeParents, takeWhile_isSafe_eq_nil_iff.2 hnone, List.take_nil]

/-- No directory above is asked for, and one is taken. -/
theorem safeParents_at_depth_zero :
    let disk := Disk.ofFiles [(⟨"a/b/c/m.py"⟩, "")]
    safeParents disk ⟨0, 20, 50⟩ ⟨"a/b/c"⟩ = [⟨"a/b"⟩] ∧
      ¬ IsWalk disk ⟨"a/b/c"⟩ 0 (safeParents disk ⟨0, 20, 50⟩ ⟨"a/b/c"⟩) := by
  intro disk
  have htaken : safeParents disk ⟨0, 20, 50⟩ ⟨"a/b/c"⟩ = [⟨"a/b"⟩] := by decide +kernel
  refine ⟨htaken, fun hwalk => ?_⟩
  have hlength := hwalk.length_le
  rw [htaken] at hlength
  exact Nat.not_succ_le_zero 0 hlength

end Walk

def listed (d : Disk) (limits : Limits) (testFile : Path) : List Path :=
  match testFile.parent? with
  | none => []
  | some directory => safeParents d limits directory

def conventional (d : Disk) (testFile : Path) : List Path :=
  match testFile.parent?.bind Path.parent? with
  | none => []
  | some project => (["src", "lib"].map project.join).filter d.isDirectory

def walked (d : Disk) (limits : Limits) (testFile : Path) : List Path :=
  conventional d testFile ++ (listed d limits testFile).flatMap (packagesIn d)

def besides (d : Disk) (limits : Limits) (testFile : Path) : List Path :=
  match parseFile d testFile with
  | .error _ => []
  | .ok module => (importedFiles module (candidates d limits testFile)).filterMap Path.parent?

def searched (d : Disk) (limits : Limits) (testFile : Path) : List Path :=
  listed d limits testFile ++ (walked d limits testFile ++ besides d limits testFile)

section Lookups

variable (packages files : Path → List Path)

def candidatesBy (d : Disk) (limits : Limits) (testFile : Path) : List Path :=
  let roots := conventional d testFile ++ (listed d limits testFile).flatMap packages
  distinct ((roots.flatMap files).filter (!isTestFile ·))

/-- The source files of a test, if the packages in a directory and the files below one were these. -/
def resolveBy (d : Disk) (limits : Limits) (testFile : Path) : List Path :=
  let found := candidatesBy packages files d limits testFile
  match parseFile d testFile with
  | .error _ => found
  | .ok module =>
    let imported := importedFiles module found
    let lead := (leadOf module testFile).toList
    if imported = [] then ((lead ++ found).eraseDupsBy Path.same).take limits.candidateFiles
    else
      let besides := ((imported.filterMap Path.parent?).flatMap files).filter (!isTestFile ·)
      ((lead ++ (imported ++ besides)).eraseDupsBy Path.same).take limits.selectedFiles

end Lookups

theorem conventionalFiles_eq (d : Disk) (directory : Path) :
    conventionalFiles d directory =
      (match directory.parent? with
        | none => []
        | some project => (["src", "lib"].map project.join).filter d.isDirectory).flatMap
        (pythonFiles d) := by
  rw [conventionalFiles]
  cases directory.parent? with
  | none => rfl
  | some project =>
    simp only [List.flatMap_cons, List.flatMap_nil, List.map_cons, List.map_nil, List.filter_cons,
      List.filter_nil]
    cases d.isDirectory (project.join "src") <;> cases d.isDirectory (project.join "lib") <;> simp

theorem candidates_eq (d : Disk) (limits : Limits) (testFile : Path) :
    candidates d limits testFile = candidatesBy (packagesIn d) (pythonFiles d) d limits testFile := by
  rw [candidates, candidatesBy, conventional, listed]
  cases testFile.parent? with
  | none => rfl
  | some directory => simp only [conventionalFiles_eq, Option.bind_some, List.flatMap_append]

theorem flatMap_siblings (d : Disk) (imported : List Path) :
    imported.flatMap (siblings d) =
      ((imported.filterMap Path.parent?).flatMap (pythonFiles d)).filter (!isTestFile ·) := by
  induction imported with
  | nil => rfl
  | cons file rest ih =>
    rw [List.flatMap_cons, ih, siblings]
    cases hparent : file.parent? with
    | none => simp [hparent]
    | some package => simp [hparent, List.filter_append]

theorem resolve_eq_resolveBy (d : Disk) (limits : Limits) (testFile : Path) :
    resolve d limits testFile = resolveBy (packagesIn d) (pythonFiles d) d limits testFile := by
  rw [resolveBy, ← candidates_eq]
  cases hread : d.readText testFile with
  | error e => simp only [resolve, parseFile, hread]
  | ok source =>
    rw [resolve_eq hread]
    simp only [parseFile, hread, select_eq, flatMap_siblings]

theorem candidatesBy_congr {packages files : Path → List Path} {d : Disk} {limits : Limits}
    {testFile : Path} (hpackages : ∀ p ∈ listed d limits testFile, packages p = packagesIn d p)
    (hfiles : ∀ p ∈ walked d limits testFile, files p = pythonFiles d p) :
    candidatesBy packages files d limits testFile = candidates d limits testFile := by
  rw [candidates_eq, candidatesBy, candidatesBy, List.flatMap_congr hpackages, ← walked,
    List.flatMap_congr hfiles]

theorem resolveBy_congr {packages files : Path → List Path} {d : Disk} {limits : Limits}
    {testFile : Path} (hpackages : ∀ p ∈ listed d limits testFile, packages p = packagesIn d p)
    (hfiles : ∀ p ∈ walked d limits testFile ++ besides d limits testFile, files p = pythonFiles d p) :
    resolveBy packages files d limits testFile = resolve d limits testFile := by
  obtain ⟨hwalked, hbesides⟩ := List.forall_mem_append.1 hfiles
  rw [resolve_eq_resolveBy, resolveBy, resolveBy, candidatesBy_congr hpackages hwalked, ← candidates_eq]
  cases hparse : parseFile d testFile with
  | error e => rfl
  | ok module =>
    rw [besides, hparse] at hbesides
    simp only
    rw [List.flatMap_congr hbesides]

section System

variable {d : Disk} {limits : Limits} {testFile p q : Path}

theorem mem_listed (h : p ∈ listed d limits testFile) :
    Passable d p ∧ ∃ directory, testFile.parent? = some directory ∧ p ∈ directory.ancestors := by
  rw [listed] at h
  split at h
  · cases h
  · rename_i directory hparent
    have hsafe := List.mem_of_mem_take h
    exact ⟨isSafe_iff.1 (List.mem_takeWhile_imp hsafe), directory, hparent,
      (List.takeWhile_sublist _).subset hsafe⟩

theorem mem_conventional (h : p ∈ conventional d testFile) :
    ∃ project name, testFile.parent?.bind Path.parent? = some project ∧ (name = "src" ∨ name = "lib") ∧
      p = project.join name ∧ d.isDirectory p := by
  rw [conventional] at h
  split at h
  · cases h
  · rename_i project hproject
    obtain ⟨hmem, hdirectory⟩ := List.mem_filter.1 h
    obtain ⟨name, hname, rfl⟩ := List.mem_map.1 hmem
    exact ⟨project, name, hproject, by simpa using hname, rfl, hdirectory⟩

theorem mem_packagesIn (hd : d.IsTree) (h : q ∈ packagesIn d p) :
    ∃ name, Path.IsName name ∧ q = p.join name ∧ d.isDirectory q := by
  rw [packagesIn] at h
  split at h
  · cases h
  · rename_i names hlist
    obtain ⟨name, hname, rfl⟩ := List.mem_map.1 h
    obtain ⟨hname, hpackage⟩ := List.mem_filter.1 (List.mem_mergeSort.1 hname)
    simp only [Bool.and_eq_true] at hpackage
    exact ⟨name, hd.isName_of_list hlist name hname, rfl, hpackage.1.2⟩

theorem isName_src_or_lib {name : String} (h : name = "src" ∨ name = "lib") : Path.IsName name := by
  rcases h with rfl | rfl <;> decide

theorem mem_walked (hd : d.IsTree) (h : p ∈ walked d limits testFile) :
    d.isDirectory p ∧ ∃ above name, Path.IsName name ∧ p = above.join name ∧
      (above ∈ listed d limits testFile ∨
        testFile.parent?.bind Path.parent? = some above ∧ (name = "src" ∨ name = "lib")) := by
  rcases List.mem_append.1 h with h | h
  · obtain ⟨project, name, hproject, hname, hp, hdirectory⟩ := mem_conventional h
    exact ⟨hdirectory, project, name, isName_src_or_lib hname, hp, .inr ⟨hproject, hname⟩⟩
  · obtain ⟨parent, hparent, h⟩ := List.mem_flatMap.1 h
    obtain ⟨name, hname, hp, hdirectory⟩ := mem_packagesIn hd h
    exact ⟨hdirectory, parent, name, hname, hp, .inl hparent⟩

theorem mem_besides (hd : d.IsTree) (h : p ∈ besides d limits testFile) :
    ∃ root ∈ walked d limits testFile, ∃ names, (∀ name ∈ names, Path.IsName name) ∧ names ≠ [] ∧
      (joinNames root names).parent? = some p := by
  rw [besides] at h
  split at h
  · cases h
  rename_i module hparse
  obtain ⟨file, hfile, hparent⟩ := List.mem_filterMap.1 h
  have hfound := mem_of_mem_importedFiles hfile
  rw [candidates_eq, candidatesBy] at hfound
  obtain hnone | hfound := Path.mem_foldl_pushNew hfound
  · cases hnone
  obtain ⟨root, hroot, hbelow⟩ := List.mem_flatMap.1 (List.mem_filter.1 hfound).1
  obtain ⟨place, hfind⟩ := Disk.isDirectory_iff.1 (mem_walked hd hroot).1
  simp only [pythonFiles, hfind] at hbelow
  obtain ⟨⟨names, e⟩, hnames, heq⟩ := List.mem_filterMap.1 (List.mem_filter.1 hbelow).1
  cases e with
  | directory => cases heq
  | file f =>
    cases heq
    obtain ⟨hne, hentry⟩ := Disk.mem_descendants.1 hnames
    exact ⟨root, hroot, names, fun name hname =>
      (hd.names _ hentry name (List.mem_append_right _ hname)).1, hne, hparent⟩

theorem exists_root (hd : d.IsTree) (h : p ∈ walked d limits testFile ++ besides d limits testFile) :
    ∃ root ∈ walked d limits testFile, root.isAbsolute = p.isAbsolute ∧ root.names <+: p.names := by
  rcases List.mem_append.1 h with h | h
  · exact ⟨p, h, rfl, List.prefix_rfl⟩
  · obtain ⟨root, hroot, names, hnames, hne, hparent⟩ := mem_besides hd h
    obtain ⟨habsolute, hjoined⟩ := joinNames_names hnames root
    obtain ⟨habsolute', hparent⟩ := Path.names_of_parent? hparent
    refine ⟨root, hroot, (habsolute'.trans habsolute).symm, ?_⟩
    rw [hparent, hjoined, List.dropLast_append_of_ne_nil hne]
    exact List.prefix_append _ _

theorem top_of_walked (hd : d.IsTree) (h : p ∈ walked d limits testFile) (hp : p.names.length ≤ 1) :
    ∃ absolute name, testFile.parent?.bind Path.parent? = some (Path.ofPieces absolute []) ∧
      (name = "src" ∨ name = "lib") ∧ p = (Path.ofPieces absolute []).join name ∧ d.isDirectory p := by
  obtain ⟨hdirectory, above, name, hname, rfl, habove⟩ := mem_walked hd h
  have htop : above.names = [] := by
    rw [Path.names_join hname, List.length_append, List.length_singleton] at hp
    exact List.length_eq_zero_iff.1 (by omega)
  rcases habove with hlisted | ⟨hproject, hsource⟩
  · -- The root and the working directory by its empty name are never listed.
    obtain ⟨hpassable, directory, -, hancestor⟩ := mem_listed hlisted
    obtain ⟨r, hr⟩ := Path.exists_parent?_of_mem_ancestors hancestor
    have heq := Path.eq_of_parent?_of_names_eq_nil hr htop
    have hordinary := hpassable.ordinary
    have hnamed := hpassable.named
    rw [heq] at hordinary hnamed
    cases habsolute : above.isAbsolute with
    | true =>
      rw [habsolute] at hordinary
      exact absurd (by decide) hordinary
    | false =>
      rw [habsolute] at hnamed
      cases hnamed
  · obtain ⟨directory, -, hparent⟩ := Option.bind_eq_some_iff.1 hproject
    have heq := Path.eq_of_parent?_of_names_eq_nil hparent htop
    exact ⟨above.isAbsolute, name, heq ▸ hproject, hsource, by rw [← heq], hdirectory⟩

theorem length_names_le_of_system : ∀ s ∈ systemDirectories, (Path.names ⟨s⟩).length ≤ 1 := by
  decide +kernel

theorem library_of_system : ∀ s ∈ systemDirectories, ∀ absolute, ∀ name ∈ ["src", "lib"],
    (Path.join (.ofPieces absolute []) name).isAbsolute = Path.isAbsolute ⟨s⟩ →
    (Path.join (.ofPieces absolute []) name).names = Path.names ⟨s⟩ → absolute ∧ name = "lib" := by
  decide +kernel

theorem library_of_searched (hd : d.IsTree) (h : p ∈ searched d limits testFile)
    (hp : isSystemDirectory p) :
    testFile.parent?.bind Path.parent? = some ⟨"/"⟩ ∧ d.isDirectory ⟨"/lib"⟩ := by
  have hsystem : p.text ∈ systemDirectories := by simpa [isSystemDirectory] using hp
  rcases List.mem_append.1 h with h | h
  · exact absurd hsystem (mem_listed h).1.ordinary
  obtain ⟨root, hroot, habsolute, hnames⟩ := exists_root hd h
  have hlength := length_names_le_of_system p.text hsystem
  obtain ⟨absolute, name, hproject, hname, rfl, hdirectory⟩ :=
    top_of_walked hd hroot (hnames.length_le.trans hlength)
  have heq := hnames.eq_of_length_le (by
    rw [Path.names_join (isName_src_or_lib hname), List.length_append]
    exact hlength.trans (Nat.le_add_left 1 _))
  obtain ⟨rfl, rfl⟩ := library_of_system p.text hsystem absolute name (by simpa using hname) habsolute heq
  exact ⟨hproject, hdirectory⟩

theorem library_searched (hproject : testFile.parent?.bind Path.parent? = some ⟨"/"⟩)
    (hlibrary : d.isDirectory ⟨"/lib"⟩) : ⟨"/lib"⟩ ∈ searched d limits testFile := by
  have hjoin : Path.join ⟨"/"⟩ "lib" = ⟨"/lib"⟩ := by decide
  refine List.mem_append_right _ (List.mem_append_left _ (List.mem_append_left _ ?_))
  rw [conventional, hproject]
  exact List.mem_filter.2 ⟨List.mem_map.2 ⟨"lib", by simp, hjoin⟩, hlibrary⟩

end System

end Sources

namespace Disk

variable {d : Disk} {p : Path}

def LeadsToSystem (d : Disk) (p : Path) : Prop := ∃ q ∈ d.canonical? p, Sources.isSystemDirectory q

theorem eq_append_of_follow {start place : Place} {names : List String}
    (hnames : ∀ name ∈ names, Path.IsName name) (h : d.follow start names = .ok place) :
    place = start ++ names := by
  induction names generalizing start with
  | nil =>
    cases h
    simp
  | cons name rest ih =>
    obtain ⟨hname, hrest⟩ := List.forall_mem_cons.1 hnames
    simp only [follow, entry?_of_follow h, beq_eq_false_iff_ne.2 hname.ne_dot,
      beq_eq_false_iff_ne.2 hname.ne_dots, Bool.false_eq_true, if_false] at h
    split at h
    · simpa using ih hrest h
    · cases h

theorem length_le_count_pathOf (place : Place) : place.length ≤ (pathOf place).text.toList.count '/' := by
  have hcount : place.length ≤ (String.intercalate "/" place).toList.count '/' + 1 := by
    induction place with
    | nil => simp
    | cons name rest ih =>
      cases rest with
      | nil => simp
      | cons second rest =>
        rw [String.intercalate_cons_cons]
        simp only [String.toList_append, List.count_append, List.length_cons] at ih ⊢
        have hslash : List.count '/' "/".toList = 1 := by decide
        omega
  have hslash : List.count '/' "/".toList = 1 := by decide
  simp only [pathOf, String.toList_append, List.count_append]
  omega

theorem count_of_system : ∀ s ∈ Sources.systemDirectories, s.toList.count '/' ≤ 1 := by decide +kernel

theorem locate_of_find {place : Place} {e : Entry} (h : d.find p = .ok (place, e)) :
    d.locate p = .ok place := by
  obtain ⟨found, hlocate, h⟩ := exists_of_bind_ok h
  split at h
  · cases h
    exact hlocate
  · cases h

theorem eq_append_names_of_find (hp : p.IsPlain) {place : Place} {e : Entry}
    (h : d.find p = .ok (place, e)) :
    p.isEmpty = false ∧ place = (if p.isAbsolute then [] else d.here) ++ p.names := by
  have hlocate := locate_of_find h
  rw [locate] at hlocate
  split at hlocate
  · cases hlocate
  · rename_i hempty
    exact ⟨by simpa using hempty, eq_append_of_follow hp.isName hlocate⟩

theorem isSystemDirectory_of_leads (hp : p.IsPlain) (hhere : p.isAbsolute ∨ d.here ≠ [])
    (h : d.LeadsToSystem p) : Sources.isSystemDirectory p := by
  obtain ⟨q, hq, hsystem⟩ := h
  simp only [canonical?] at hq
  split at hq
  · rename_i place e hfind
    obtain rfl := Option.some.inj hq
    obtain ⟨hempty, hplace⟩ := eq_append_names_of_find hp hfind
    cases habsolute : p.isAbsolute with
    | true =>
      rw [habsolute, if_pos rfl, List.nil_append] at hplace
      have heq : p = pathOf place := by
        rw [hp.eq_ofPieces, habsolute, hplace]
        rfl
      rwa [heq]
    | false =>
      have hnames : p.names ≠ [] := by
        intro hnil
        rw [hp.eq_ofPieces, habsolute, hnil] at hempty
        cases hempty
      have hsteps : 2 ≤ place.length := by
        have hhere := List.length_pos_iff.2 (hhere.resolve_left (by simp [habsolute]))
        have hbelow := List.length_pos_iff.2 hnames
        simp only [hplace, habsolute, Bool.false_eq_true, if_false, List.length_append]
        omega
      have hfew := count_of_system (pathOf place).text (by simpa [Sources.isSystemDirectory] using hsystem)
      have hmany := length_le_count_pathOf place
      omega
  · cases hq

end Disk

namespace Sources

variable {d : Disk} {limits : Limits} {testFile p : Path}

theorem isPlain_joinNames (hp : p.IsPlain) {names : List String}
    (hnames : ∀ name ∈ names, Path.IsName name) : (joinNames p names).IsPlain := by
  induction names generalizing p with
  | nil => exact hp
  | cons name rest ih =>
    obtain ⟨hname, hrest⟩ := List.forall_mem_cons.1 hnames
    exact ih (hp.join hname) hrest

theorem isPlain_of_searched (hd : d.IsTree) (hplain : testFile.IsPlain)
    (h : p ∈ searched d limits testFile) : p.IsPlain ∧ p.isAbsolute = testFile.isAbsolute := by
  have hlisted : ∀ q ∈ listed d limits testFile, q.IsPlain ∧ q.isAbsolute = testFile.isAbsolute := by
    intro q hq
    obtain ⟨-, directory, hparent, hancestor⟩ := mem_listed hq
    exact ⟨(hplain.parent? hparent).of_mem_ancestors hancestor,
      (Path.names_of_mem_ancestors hancestor).1.trans (Path.names_of_parent? hparent).1⟩
  have hwalked : ∀ q ∈ walked d limits testFile, q.IsPlain ∧ q.isAbsolute = testFile.isAbsolute := by
    intro q hq
    obtain ⟨-, above, name, hname, rfl, habove⟩ := mem_walked hd hq
    have hplainAbove : above.IsPlain ∧ above.isAbsolute = testFile.isAbsolute := by
      rcases habove with hlist | ⟨hproject, -⟩
      · exact hlisted above hlist
      · obtain ⟨directory, hdirectory, hparent⟩ := Option.bind_eq_some_iff.1 hproject
        exact ⟨(hplain.parent? hdirectory).parent? hparent,
          (Path.names_of_parent? hparent).1.trans (Path.names_of_parent? hdirectory).1⟩
    exact ⟨hplainAbove.1.join hname, (Path.isAbsolute_join hname above).trans hplainAbove.2⟩
  rcases List.mem_append.1 h with h | h
  · exact hlisted p h
  rcases List.mem_append.1 h with h | h
  · exact hwalked p h
  obtain ⟨root, hroot, names, hnames, -, hparent⟩ := mem_besides hd h
  obtain ⟨hplainRoot, habsolute⟩ := hwalked root hroot
  exact ⟨(isPlain_joinNames hplainRoot hnames).parent? hparent,
    (Path.names_of_parent? hparent).1.trans ((joinNames_names hnames root).1.trans habsolute)⟩

/-- The search for the source files of a test depends on no directories but those it searches. One of them
has the text of a directory of the system if and only if the test stands right below a directory of the
root and there is a `/lib`; then that is walked through. A test file written without detours, and not
from the root as the working directory, leads to directories of the system by their texts only. -/
theorem system_searched_iff (hd : d.IsTree) (limits : Limits) (testFile : Path) :
    (∀ packages files : Path → List Path,
      (∀ p ∈ listed d limits testFile, packages p = packagesIn d p) →
      (∀ p ∈ walked d limits testFile ++ besides d limits testFile, files p = pythonFiles d p) →
      resolveBy packages files d limits testFile = resolve d limits testFile) ∧
    ((∃ p ∈ searched d limits testFile, isSystemDirectory p) ↔
      testFile.parent?.bind Path.parent? = some ⟨"/"⟩ ∧ d.isDirectory ⟨"/lib"⟩) ∧
    (testFile.IsPlain → (testFile.isAbsolute ∨ d.here ≠ []) →
      ∀ p ∈ searched d limits testFile, d.LeadsToSystem p → isSystemDirectory p) := by
  refine ⟨fun packages files => resolveBy_congr, ⟨?_, ?_⟩, ?_⟩
  · rintro ⟨p, hp, hsystem⟩
    exact library_of_searched hd hp hsystem
  · rintro ⟨hproject, hlibrary⟩
    exact ⟨⟨"/lib"⟩, library_searched hproject hlibrary, by decide⟩
  · intro hplain hhere p hp
    obtain ⟨hplain, habsolute⟩ := isPlain_of_searched hd hplain hp
    exact Disk.isSystemDirectory_of_leads hplain (habsolute ▸ hhere)

section

def homeTestFile : Path := .ofPieces true ["home", "me", "app", "tests", "test_a.py"]

def homeDisk : Disk :=
  .ofFiles [(homeTestFile, "import core\n"), (⟨"/home/me/app/src/core.py"⟩, ""), (⟨"/lib/os.py"⟩, "")]

theorem system_searched_iff_home :
    ⟨"/home/me/app/src"⟩ ∈ searched homeDisk .standard homeTestFile ∧
      ∀ p ∈ searched homeDisk .standard homeTestFile, ¬ homeDisk.LeadsToSystem p := by
  have hsource : ⟨"/home/me/app/src"⟩ ∈ conventional homeDisk homeTestFile := by decide +kernel
  refine ⟨List.mem_append_right _ (List.mem_append_left _ (List.mem_append_left _ hsource)), ?_⟩
  intro p hp hleads
  obtain ⟨-, hiff, hplain⟩ := system_searched_iff (Disk.isTree_ofFiles _) .standard homeTestFile
  have hproject : homeTestFile.parent?.bind Path.parent? ≠ some ⟨"/"⟩ := by decide +kernel
  refine hproject (hiff.1 ⟨p, hp, hplain ?_ ?_ p hp hleads⟩).1
  · exact Path.isPlain_ofPieces (by decide)
  · exact .inl (by decide)

def libraryDisk : Disk := .ofFiles [(⟨"/tests/test_a.py"⟩, ""), (⟨"/lib/core.py"⟩, "")]

def temporaryDisk : Disk :=
  .ofFiles [(⟨"/tmp/pkg/__init__.py"⟩, ""), (⟨"/tmp/pkg/core.py"⟩, ""), (⟨"/tmp/pkg/x/test_a.py"⟩, "")]

/-- The library of the system is walked through as the `lib` beside a test, and a directory of the system
is listed where its separator is doubled. -/
theorem directories_of_system_searched :
    (⟨"/lib"⟩ ∈ searched libraryDisk .standard ⟨"/tests/test_a.py"⟩ ∧ isSystemDirectory ⟨"/lib"⟩) ∧
      ⟨"//tmp"⟩ ∈ listed temporaryDisk .standard ⟨"//tmp/pkg/x/test_a.py"⟩ ∧
      ⟨"//tmp/pkg"⟩ ∈ packagesIn temporaryDisk ⟨"//tmp"⟩ ∧ temporaryDisk.LeadsToSystem ⟨"//tmp"⟩ := by
  have hlisted : listed temporaryDisk .standard ⟨"//tmp/pkg/x/test_a.py"⟩ = [⟨"//tmp/pkg"⟩, ⟨"//tmp"⟩] := by
    decide +kernel
  have hcanonical : temporaryDisk.canonical? ⟨"//tmp"⟩ = some ⟨"/tmp"⟩ := by decide +kernel
  have hpackages : packagesIn temporaryDisk ⟨"//tmp"⟩ = [⟨"//tmp/pkg"⟩] := by
    have hlist : temporaryDisk.list ⟨"//tmp"⟩ = .ok ["pkg"] := by decide +kernel
    have hjoin : Path.join ⟨"//tmp"⟩ "pkg" = ⟨"//tmp/pkg"⟩ := by decide
    have hname : "pkg".startsWith "test" = false := by cbv
    have hpackage : temporaryDisk.isDirectory ⟨"//tmp/pkg"⟩ ∧ isPackage temporaryDisk ⟨"//tmp/pkg"⟩ := by
      decide +kernel
    simp [packagesIn, hlist, hjoin, hname, hpackage]
  refine ⟨⟨library_searched (by decide +kernel) (by decide +kernel), by decide⟩, ?_, ?_, ⟨"/tmp"⟩, ?_, ?_⟩
  · simp [hlisted]
  · simp [hpackages]
  · exact hcanonical
  · decide

end

end Sources

end TestTwins
