import Mathlib
import TestTwins.Proofs.DiskTrees
import TestTwins.Sources.Resolver

namespace TestTwins

namespace Path

theorem same_iff {p q : Path} : p.same q ↔ p.isAbsolute = q.isAbsolute ∧ p.names = q.names := by
  simp [same]

theorem same_self (p : Path) : p.same p := same_iff.2 ⟨rfl, rfl⟩

theorem same_comm (p q : Path) : p.same q = q.same p := by
  rw [Bool.eq_iff_iff, same_iff, same_iff, eq_comm, @eq_comm _ p.names]

theorem foldl_pushNew (found ps : List Path) :
    ps.foldl pushNew found = found ++ (ps.filter fun p => !contains found p).eraseDupsBy same := by
  induction ps generalizing found with
  | nil => simp
  | cons p ps ih =>
    rw [List.foldl_cons, ih, pushNew]
    by_cases hp : contains found p
    · simp [hp]
    · have hmore : ∀ q, (!contains (found ++ [p]) q) = (!contains found q && (q.same p = false)) := by
        intro q
        simp [contains, same_comm q p]
      simp only [hp, Bool.false_eq_true, if_false, List.filter_cons, Bool.not_false, if_true,
        List.eraseDupsBy_cons, List.filter_filter, List.append_assoc, hmore]
      simp [Bool.and_comm]

theorem foldl_pushNew_nil (ps : List Path) : ps.foldl pushNew [] = ps.eraseDupsBy same := by
  have hall : (ps.filter fun p => !contains [] p) = ps := List.filter_eq_self.2 (by simp [contains])
  rw [foldl_pushNew, hall, List.nil_append]

theorem foldl_pushNew_lead (lead : Option Path) (ps : List Path) :
    ps.foldl pushNew lead.toList = (lead.toList ++ ps).eraseDupsBy same := by
  rw [← foldl_pushNew_nil]
  cases lead with
  | none => rfl
  | some p => rfl

theorem pairwise_pushNew {found : List Path} (h : found.Pairwise fun p q => p.same q = false) (p : Path) :
    (pushNew found p).Pairwise fun p q => p.same q = false := by
  rw [pushNew]
  split
  · exact h
  · rename_i hnew
    refine List.pairwise_append.2 ⟨h, List.pairwise_singleton _ _, ?_⟩
    intro q hq p' hp'
    obtain rfl := List.mem_singleton.1 hp'
    simp only [contains, List.any_eq_true, not_exists, not_and, Bool.not_eq_true] at hnew
    exact hnew q hq

theorem pairwise_foldl_pushNew {found : List Path} (h : found.Pairwise fun p q => p.same q = false)
    (ps : List Path) : (ps.foldl pushNew found).Pairwise fun p q => p.same q = false := by
  induction ps generalizing found with
  | nil => exact h
  | cons p ps ih => exact ih (pairwise_pushNew h p)

theorem mem_foldl_pushNew {found ps : List Path} {q : Path} (h : q ∈ ps.foldl pushNew found) :
    q ∈ found ∨ q ∈ ps := by
  induction ps generalizing found with
  | nil => exact .inl h
  | cons p ps ih =>
    rcases ih h with hq | hq
    · rw [pushNew] at hq
      split at hq
      · exact .inl hq
      · rcases List.mem_append.1 hq with hq | hq
        · exact .inl hq
        · exact .inr (List.mem_singleton.1 hq ▸ List.mem_cons_self)
    · exact .inr (List.mem_cons_of_mem p hq)

theorem contains_of_start {ps qs : List Path} (h : ps <+: qs) {p : Path} (hp : contains ps p) :
    contains qs p := by
  obtain ⟨q, hq, hsame⟩ := List.any_eq_true.1 hp
  exact List.any_eq_true.2 ⟨q, h.subset hq, hsame⟩

theorem contains_foldl_pushNew {found ps : List Path} {p : Path} (h : p ∈ ps) :
    contains (ps.foldl pushNew found) p := by
  induction ps generalizing found with
  | nil => cases h
  | cons q ps ih =>
    rcases List.mem_cons.1 h with rfl | h
    · have hadded : contains (pushNew found p) p := by
        rw [pushNew]
        split
        · assumption
        · exact List.any_eq_true.2 ⟨p, by simp, same_self p⟩
      rw [List.foldl_cons, foldl_pushNew]
      exact contains_of_start (List.prefix_append _ _) hadded
    · exact ih h

theorem eq_of_left_out {found ps more : List Path} {cap : Nat} {p : Path} (hp : p ∈ ps)
    (h : contains (((ps ++ more).foldl pushNew found).take cap) p = false) :
    (((ps ++ more).foldl pushNew found).take cap).length = cap ∧
      ∀ q ∈ ((ps ++ more).foldl pushNew found).take cap, q ∈ found ∨ q ∈ ps := by
  rw [List.foldl_append, foldl_pushNew _ more] at h ⊢
  have hpresent : contains (ps.foldl pushNew found) p := contains_foldl_pushNew hp
  have hmem : ∀ q ∈ ps.foldl pushNew found, q ∈ found ∨ q ∈ ps := fun q => mem_foldl_pushNew
  generalize ps.foldl pushNew found = front at *
  have hcut : cap < front.length := by
    by_contra hle
    have hfront : front <+: (front ++ (more.filter fun p => !contains front p).eraseDupsBy same).take cap :=
      List.prefix_take_iff.2 ⟨List.prefix_append _ _, Nat.not_lt.1 hle⟩
    rw [contains_of_start hfront hpresent] at h
    cases h
  have hle := Nat.le_of_lt hcut
  rw [List.take_append_of_le_length hle]
  exact ⟨List.length_take_of_le hle, fun q hq => hmem q (List.mem_of_mem_take hq)⟩

end Path

namespace Sources

theorem joinNames_names {names : List String} (h : ∀ name ∈ names, Path.IsName name) (p : Path) :
    (joinNames p names).isAbsolute = p.isAbsolute ∧ (joinNames p names).names = p.names ++ names := by
  induction names generalizing p with
  | nil => simp [joinNames]
  | cons name rest ih =>
    obtain ⟨hname, hrest⟩ := List.forall_mem_cons.1 h
    obtain ⟨habsolute, hnames⟩ := ih hrest (p.join name)
    refine ⟨habsolute.trans (Path.isAbsolute_join hname p), hnames.trans ?_⟩
    rw [Path.names_join hname, List.append_assoc]
    rfl

theorem joinNames_ne_empty {names : List String} (h : ∀ name ∈ names, Path.IsName name) {p : Path}
    (hp : p.isEmpty = false) : (joinNames p names).isEmpty = false := by
  induction names generalizing p with
  | nil => exact hp
  | cons name rest ih =>
    obtain ⟨hname, hrest⟩ := List.forall_mem_cons.1 h
    exact ih hrest (Path.isEmpty_join hname p)

theorem find_joinNames {d : Disk} (hd : d.IsTree) {p : Path} {place : Place} {e e' : Entry}
    (hp : d.find p = .ok (place, e)) {names : List String}
    (h : (names, e') ∈ d.descendants place) : d.find (joinNames p names) = .ok (place ++ names, e') := by
  obtain ⟨hne, hmem⟩ := Disk.mem_descendants.1 h
  have hnames : ∀ name ∈ names, Path.IsName name := fun name hname =>
    (hd.names _ hmem name (List.mem_append_right _ hname)).1
  obtain ⟨habsolute, hjoined⟩ := joinNames_names hnames p
  obtain ⟨q, hlocate, hfind⟩ := exists_of_bind_ok hp
  have hq : q = place := by
    split at hfind
    · cases hfind
      rfl
    · cases hfind
  subst hq
  have hlocated : d.locate (joinNames p names) = .ok (q ++ names) := by
    rw [Disk.locate] at hlocate ⊢
    split at hlocate
    · cases hlocate
    · rename_i hempty
      rw [joinNames_ne_empty hnames (by simpa using hempty), habsolute, hjoined, Disk.follow_append, hlocate]
      exact hd.follow_names hmem
  have hentry : d.entry? (q ++ names) = some e' := Disk.entry?_of_mem hd.nodup (by simp [hne]) hmem
  rw [Disk.find, hlocated]
  simp only [bind, Except.bind, hentry]
  rfl

structure IsSource (d : Disk) (p : Path) : Prop where
  isFile : d.isFile p
  python : p.extension? = some "py"
  notTest : isTestFile p = false

theorem mem_pythonFiles {d : Disk} (hd : d.IsTree) {p q : Path} (h : q ∈ pythonFiles d p) :
    d.isFile q ∧ q.extension? = some "py" := by
  simp only [pythonFiles] at h
  split at h
  · cases h
  · rename_i place f hfind
    split at h
    · rename_i hpython
      obtain rfl := List.mem_singleton.1 h
      exact ⟨by simp only [Disk.isFile, hfind], by simpa using hpython⟩
    · cases h
  · rename_i place hfind
    obtain ⟨hmem, hpython⟩ := List.mem_filter.1 h
    obtain ⟨⟨names, e⟩, hbelow, hfile⟩ := List.mem_filterMap.1 hmem
    cases e with
    | file f =>
      cases hfile
      exact ⟨by simp only [Disk.isFile, find_joinNames hd hfind hbelow], by simpa using hpython⟩
    | directory => cases hfile

section Selection

variable {d : Disk}

theorem isSource_of_mem_candidates (hd : d.IsTree) {limits : Limits} {testFile p : Path}
    (h : p ∈ candidates d limits testFile) : IsSource d p := by
  simp only [candidates] at h
  split at h
  · cases h
  · rename_i directory hdirectory
    obtain hnone | hfound := Path.mem_foldl_pushNew h
    · cases hnone
    obtain ⟨hfound, hnotTest⟩ := List.mem_filter.1 hfound
    have hpython : ∃ root, p ∈ pythonFiles d root := by
      rcases List.mem_append.1 hfound with hfound | hfound
      · simp only [conventionalFiles] at hfound
        split at hfound
        · cases hfound
        · obtain ⟨name, -, hfound⟩ := List.mem_flatMap.1 hfound
          split at hfound
          · exact ⟨_, hfound⟩
          · cases hfound
      · obtain ⟨package, -, hfound⟩ := List.mem_flatMap.1 hfound
        exact ⟨package, hfound⟩
    obtain ⟨root, hroot⟩ := hpython
    obtain ⟨hfile, hextension⟩ := mem_pythonFiles hd hroot
    exact ⟨hfile, hextension, by simpa using hnotTest⟩

theorem isSource_of_mem_siblings (hd : d.IsTree) {imported p : Path} (h : p ∈ siblings d imported) :
    IsSource d p := by
  simp only [siblings] at h
  split at h
  · cases h
  · obtain ⟨hpython, hnotTest⟩ := List.mem_filter.1 h
    obtain ⟨hfile, hextension⟩ := mem_pythonFiles hd hpython
    exact ⟨hfile, hextension, by simpa using hnotTest⟩

theorem mem_of_findModule? {name : String} {found : List Path} {p : Path}
    (h : findModule? name found = some p) : p ∈ found := by
  simp only [findModule?] at h
  split at h
  · cases h
  · exact List.mem_of_find?_eq_some h

def ImportsAny (module : Python.Node) (found : List Path) : Prop :=
  ∃ name ∈ module.importedModules, isStandardModule name = false ∧ (findModule? name found).isSome

instance (module : Python.Node) (found : List Path) : Decidable (ImportsAny module found) :=
  inferInstanceAs (Decidable (∃ name ∈ module.importedModules, _))

def importedFiles (module : Python.Node) (found : List Path) : List Path :=
  ((module.importedModules.filter (!isStandardModule ·)).filterMap (findModule? · found)).eraseDupsBy
    Path.same

theorem findModules_eq (names : List String) (found : List Path) :
    findModules names found = (names.filterMap (findModule? · found)).eraseDupsBy Path.same := by
  rw [← Path.foldl_pushNew_nil, findModules, List.foldl_filterMap]
  congr 1
  funext files name
  cases findModule? name found <;> rfl

theorem importedFiles_eq_nil_iff {module : Python.Node} {found : List Path} :
    importedFiles module found = [] ↔ ¬ ImportsAny module found := by
  have herase : ∀ ps : List Path, ps.eraseDupsBy Path.same = [] ↔ ps = [] := by
    intro ps
    cases ps with
    | nil => simp
    | cons p ps => simp [List.eraseDupsBy_cons]
  rw [importedFiles, herase, List.filterMap_eq_nil_iff]
  simp only [ImportsAny, List.mem_filter, not_exists, not_and, Bool.not_eq_true, Bool.not_eq_eq_eq_not,
    Bool.not_true, Option.isSome_eq_false_iff, Option.isNone_iff_eq_none, and_imp]

def leadOf (module : Python.Node) (testFile : Path) : Option Path :=
  if ∃ f ∈ module.functions, Python.isTestLike f.name = false then some testFile else none

theorem resolve_eq {limits : Limits} {testFile : Path} {source : String}
    (hread : d.readText testFile = .ok source) :
    resolve d limits testFile =
      let found := candidates d limits testFile
      select d limits found (importedFiles (Python.parse source) found)
        (leadOf (Python.parse source) testFile) := by
  have hparse : parseFile d testFile = .ok (Python.parse source) := by
    rw [parseFile, hread]
  simp only [resolve, hparse, findModules_eq, importedFiles, leadOf]
  congr 1
  simp [Python.Node.definesNonTest]

theorem pairwise_select (limits : Limits) (found imported : List Path) (lead : Option Path) :
    (select d limits found imported lead).Pairwise fun p q => p.same q = false := by
  have hlead : lead.toList.Pairwise fun p q => p.same q = false := by
    cases lead with
    | none => exact .nil
    | some p => exact List.pairwise_singleton _ p
  simp only [select]
  split
  · exact (Path.pairwise_foldl_pushNew hlead _).sublist (List.take_sublist _ _)
  · exact (Path.pairwise_foldl_pushNew hlead _).sublist (List.take_sublist _ _)

theorem isSource_of_mem_select (hd : d.IsTree) {limits : Limits} {found imported : List Path}
    {lead : Option Path} (hfound : ∀ p ∈ found, IsSource d p) (himported : ∀ p ∈ imported, p ∈ found)
    {p : Path} (h : p ∈ select d limits found imported lead) : p ∈ lead ∨ IsSource d p := by
  simp only [select] at h
  split at h
  · refine (Path.mem_foldl_pushNew (List.mem_of_mem_take h)).imp Option.mem_toList.1 ?_
    exact hfound p
  · refine (Path.mem_foldl_pushNew (List.mem_of_mem_take h)).imp Option.mem_toList.1 fun hmem => ?_
    rcases List.mem_append.1 hmem with hmem | hmem
    · exact hfound p (himported p hmem)
    · obtain ⟨file, -, hmem⟩ := List.mem_flatMap.1 hmem
      exact isSource_of_mem_siblings hd hmem

theorem mem_of_mem_importedFiles {module : Python.Node} {found : List Path} {p : Path}
    (h : p ∈ importedFiles module found) : p ∈ found := by
  rw [importedFiles, ← Path.foldl_pushNew_nil] at h
  obtain hnone | hmem := Path.mem_foldl_pushNew h
  · cases hnone
  · obtain ⟨name, -, hname⟩ := List.mem_filterMap.1 hmem
    exact mem_of_findModule? hname

theorem select_eq (limits : Limits) (found imported : List Path) (lead : Option Path) :
    select d limits found imported lead =
      if imported = [] then ((lead.toList ++ found).eraseDupsBy Path.same).take limits.candidateFiles
      else ((lead.toList ++ (imported ++ imported.flatMap (siblings d))).eraseDupsBy Path.same).take
        limits.selectedFiles := by
  simp only [select, Path.foldl_pushNew_lead, List.isEmpty_iff]

theorem head?_take_eraseDups (p : Path) (rest : List Path) {cap : Nat} (hcap : 0 < cap) :
    (((p :: rest).eraseDupsBy Path.same).take cap).head? = some p := by
  obtain ⟨n, rfl⟩ := Nat.exists_eq_succ_of_ne_zero (Nat.ne_of_gt hcap)
  rw [List.eraseDupsBy_cons, List.take_succ_cons, List.head?_cons]

/-- What the source files of a test are, whatever is on the disk. They are all different, and all but
the test file are source files. The test file is first if it defines a function that is not like a test.
The others are those it imports, and then what stands beside them, if it imports any of those found; if
not, they are all those found. They are cut at a length, and an imported file is left out only if that
is used up by others and by the test file. -/
theorem resolve_shape (hd : d.IsTree) (limits : Limits) {testFile : Path} {source : String}
    (hread : d.readText testFile = .ok source) :
    let module := Python.parse source
    let found := candidates d limits testFile
    let imported := importedFiles module found
    let lead := (leadOf module testFile).toList
    let chosen := resolve d limits testFile
    let cap := if ImportsAny module found then limits.selectedFiles else limits.candidateFiles
    chosen.Pairwise (fun p q => p.same q = false) ∧
      ((∃ f ∈ module.functions, Python.isTestLike f.name = false) → 0 < cap →
        chosen.head? = some testFile) ∧
      (∀ p ∈ chosen, p ∈ lead ∨ IsSource d p) ∧
      (ImportsAny module found →
        chosen = ((lead ++ imported ++ imported.flatMap (siblings d)).eraseDupsBy Path.same).take cap ∧
        ∀ p ∈ imported, Path.contains chosen p = false →
          chosen.length = cap ∧ ∀ q ∈ chosen, q ∈ lead ∨ q ∈ imported) ∧
      (¬ ImportsAny module found → chosen = ((lead ++ found).eraseDupsBy Path.same).take cap) := by
  intro module found imported lead chosen cap
  have hchosen : chosen = select d limits found imported (leadOf module testFile) := resolve_eq hread
  have himported : imported = [] ↔ ¬ ImportsAny module found := importedFiles_eq_nil_iff
  have hwith : ImportsAny module found → chosen =
      ((lead ++ (imported ++ imported.flatMap (siblings d))).eraseDupsBy Path.same).take cap := by
    intro hany
    have hne : imported ≠ [] := fun hnil => himported.1 hnil hany
    rw [hchosen, select_eq, if_neg hne, show cap = _ from if_pos hany]
  have hwithout : ¬ ImportsAny module found →
      chosen = ((lead ++ found).eraseDupsBy Path.same).take cap := by
    intro hnone
    rw [hchosen, select_eq, if_pos (himported.2 hnone), show cap = _ from if_neg hnone]
  refine ⟨hchosen ▸ pairwise_select limits found imported _, fun hnonTest hcap => ?_, fun p hp => ?_,
    fun hany => ⟨?_, fun p hp hout => ?_⟩, hwithout⟩
  · have hlead : lead = [testFile] := by
      simp only [lead, leadOf, if_pos hnonTest, Option.toList_some]
    by_cases hany : ImportsAny module found
    · rw [hwith hany, hlead]
      exact head?_take_eraseDups testFile _ hcap
    · rw [hwithout hany, hlead]
      exact head?_take_eraseDups testFile _ hcap
  · rw [hchosen] at hp
    refine (isSource_of_mem_select hd ?_ (fun _ => mem_of_mem_importedFiles) hp).imp_left Option.mem_toList.2
    exact fun _ => isSource_of_mem_candidates hd
  · rw [hwith hany, List.append_assoc]
  · rw [hwith hany, ← Path.foldl_pushNew_lead] at hout ⊢
    exact Path.eq_of_left_out hp hout

end Selection

def pairTest : String := "from b import f\n\ndef g():\n    return 2\n\ndef test_f():\n    f()\n"

def pairTestFile : Path := ⟨"/tests/test_b.py"⟩

def pairDisk : Disk := .ofFiles [(pairTestFile, pairTest), (⟨"/src/a.py"⟩, ""), (⟨"/src/b.py"⟩, "")]

theorem pythonFiles_pair : pythonFiles pairDisk ⟨"/src"⟩ = [⟨"/src/a.py"⟩, ⟨"/src/b.py"⟩] := by
  have hfind : pairDisk.find ⟨"/src"⟩ = .ok (["src"], .directory) := by decide +kernel
  have hbelow : pairDisk.descendants ["src"] = [(["a.py"], .file ⟨some "", false, 0⟩),
      (["b.py"], .file ⟨some "", false, 0⟩)] := by
    have hentries : (pairDisk.entries.filterMap fun e => (Disk.below? ["src"] e.1).map (·, e.2)) =
        [(["a.py"], .file ⟨some "", false, 0⟩), (["b.py"], .file ⟨some "", false, 0⟩)] := by
      decide +kernel
    rw [Disk.descendants, hentries]
    exact List.mergeSort_of_pairwise (by decide)
  simp only [pythonFiles, hfind, hbelow]
  decide +kernel

theorem candidates_pair (limits : Limits) :
    candidates pairDisk limits pairTestFile = [⟨"/src/a.py"⟩, ⟨"/src/b.py"⟩] := by
  have hparent : pairTestFile.parent? = some ⟨"/tests"⟩ := by decide +kernel
  have hsafe : (Path.ancestors ⟨"/tests"⟩).takeWhile (isSafe pairDisk) = [] := by decide +kernel
  have hbeside : conventionalFiles pairDisk ⟨"/tests"⟩ = [⟨"/src/a.py"⟩, ⟨"/src/b.py"⟩] := by
    have hproject : Path.parent? ⟨"/tests"⟩ = some ⟨"/"⟩ := by decide +kernel
    have hsource : Path.join ⟨"/"⟩ "src" = ⟨"/src"⟩ ∧ pairDisk.isDirectory ⟨"/src"⟩ := by decide +kernel
    have hlibrary : pairDisk.isDirectory (Path.join ⟨"/"⟩ "lib") = false := by decide +kernel
    simp [conventionalFiles, hproject, hsource, hlibrary, pythonFiles_pair]
  simp only [candidates, hparent, safeParents, hsafe, hbeside, List.take_nil, List.flatMap_nil]
  decide +kernel

theorem importedFiles_pair :
    importedFiles (Python.parse pairTest) [⟨"/src/a.py"⟩, ⟨"/src/b.py"⟩] = [⟨"/src/b.py"⟩] := by
  have hmodules : (Python.parse pairTest).importedModules = ["b"] := by decide +kernel
  have hstandard : isStandardModule "b" = false := by cbv
  have hmodule : findModule? "b" [⟨"/src/a.py"⟩, ⟨"/src/b.py"⟩] = some ⟨"/src/b.py"⟩ := by
    have hparts : dottedParts "b" = ["b"] := by cbv
    have hother : isModuleFile "b" ⟨"/src/a.py"⟩ = false := by
      simp only [isModuleFile, hparts]
      decide +kernel
    have hfile : isModuleFile "b" ⟨"/src/b.py"⟩ = true := by
      simp only [isModuleFile, hparts]
      decide +kernel
    simp [findModule?, hother, hfile]
  simp [importedFiles, hmodules, hstandard, hmodule, List.eraseDupsBy_cons]

theorem resolve_shape_pair :
    resolve pairDisk ⟨5, 2, 50⟩ pairTestFile = [pairTestFile, ⟨"/src/b.py"⟩] := by
  have hread : pairDisk.readText pairTestFile = .ok pairTest := by decide +kernel
  have himports : ImportsAny (Python.parse pairTest) [⟨"/src/a.py"⟩, ⟨"/src/b.py"⟩] := by
    by_contra hnone
    cases importedFiles_pair.symm.trans (importedFiles_eq_nil_iff.2 hnone)
  have hlead : leadOf (Python.parse pairTest) pairTestFile = some pairTestFile := by
    have hfunctions : "g" ∈ (Python.parse pairTest).functions.map (·.name) := by decide +kernel
    obtain ⟨f, hf, hname⟩ := List.mem_map.1 hfunctions
    have hhelper : Python.isTestLike "g" = false := by cbv
    exact if_pos ⟨f, hf, hname ▸ hhelper⟩
  have hsiblings : siblings pairDisk ⟨"/src/b.py"⟩ = [⟨"/src/a.py"⟩, ⟨"/src/b.py"⟩] := by
    have hparent : Path.parent? ⟨"/src/b.py"⟩ = some ⟨"/src"⟩ := by decide +kernel
    simp only [siblings, hparent, pythonFiles_pair]
    decide +kernel
  have htree : pairDisk.IsTree := Disk.isTree_ofFiles _
  have hshape := resolve_shape htree ⟨5, 2, 50⟩ hread
  simp only [candidates_pair, importedFiles_pair, hlead] at hshape
  obtain ⟨-, -, -, hwith, -⟩ := hshape
  rw [(hwith himports).1, if_pos himports]
  simp only [List.flatMap_cons, List.flatMap_nil, hsiblings]
  decide +kernel

end Sources

end TestTwins
