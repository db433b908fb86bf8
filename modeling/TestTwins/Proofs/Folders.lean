import Mathlib.Data.List.Nodup
import Mathlib.Data.List.TakeWhile
import TestTwins.Proofs.DiskTrees
import TestTwins.Proofs.StoreRuns

namespace TestTwins

namespace Path

theorem splitName_of_lastDot (before : List Char) {after : List Char} (h : '.' ∉ after) :
    splitName (String.ofList (before ++ '.' :: after)) =
      if before = [] then (String.ofList ('.' :: after), none)
      else (String.ofList before, some (String.ofList after)) := by
  have htaken : ((before ++ '.' :: after).reverse.takeWhile (· != '.')).reverse = after := by
    have hkept : ∀ c ∈ after.reverse, (c != '.') = true := by
      intro c hc
      rw [bne_iff_ne]
      rintro rfl
      exact h (List.mem_reverse.1 hc)
    rw [List.reverse_append, List.reverse_cons, List.append_assoc, List.takeWhile_append_of_pos hkept]
    simp
  have hbefore : (before ++ '.' :: after).take ((before ++ '.' :: after).length - after.length - 1) =
      before := by
    rw [List.length_append, List.length_cons, show
      before.length + (after.length + 1) - after.length - 1 = before.length by omega, List.take_left]
  simp only [splitName, String.toList_ofList, htaken, hbefore]
  have hlength : (after.length == (before ++ '.' :: after).length) = false := by
    rw [beq_eq_false_iff_ne, List.length_append, List.length_cons]
    omega
  rw [hlength, Bool.false_or]
  cases before <;> simp

theorem splitName_eq_some_iff {name extension : String} (hext : '.' ∉ extension.toList) :
    (splitName name).2 = some extension ↔ ∃ stem, stem ≠ "" ∧ name = stem ++ ("." ++ extension) := by
  constructor
  · intro h
    by_cases hdot : '.' ∈ name.toList
    · obtain ⟨after, before, hsplit, hafter⟩ := List.eq_append_cons_of_mem (List.mem_reverse.2 hdot)
      have hname : name = String.ofList (before.reverse ++ '.' :: after.reverse) := by
        rw [← String.ofList_toList (s := name), ← List.reverse_reverse name.toList, hsplit]
        simp
      rw [hname, splitName_of_lastDot _ (by simpa using hafter)] at h
      split at h
      · cases h
      · rename_i hbefore
        refine ⟨String.ofList before.reverse, by simpa using hbefore, ?_⟩
        rw [hname, ← Option.some.inj h, ← String.toList_inj]
        simp
    · have hall : name.toList.reverse.takeWhile (· != '.') = name.toList.reverse := by
        rw [List.takeWhile_eq_self_iff]
        intro c hc
        rw [bne_iff_ne]
        rintro rfl
        exact hdot (List.mem_reverse.1 hc)
      simp [splitName, hall] at h
  · rintro ⟨stem, hstem, rfl⟩
    have hname : stem ++ ("." ++ extension) = String.ofList (stem.toList ++ '.' :: extension.toList) := by
      rw [← String.toList_inj]
      simp
    have hbefore : stem.toList ≠ [] := by simpa using hstem
    rw [hname, splitName_of_lastDot _ hext, if_neg hbefore]
    simp

theorem isName_iff {name : String} :
    IsName name ↔ name != "" && name != "." && name != ".." && !name.toList.contains '/' := by
  simp only [Bool.and_eq_true, bne_iff_ne, Bool.not_eq_true', Bool.eq_false_iff, ne_eq,
    List.contains_iff_mem, and_assoc]
  constructor
  · intro h
    exact ⟨h.ne_empty, h.ne_dot, h.ne_dots, h.no_slash⟩
  · rintro ⟨hempty, hdot, hdots, hslash⟩
    exact ⟨hempty, hdot, hdots, hslash⟩

instance (name : String) : Decidable (IsName name) := decidable_of_iff _ isName_iff.symm

def IsRecordName (name : String) : Prop := ∃ stem, stem ≠ "" ∧ name = stem ++ ".json"

theorem splitName_eq_json_iff {name : String} : (splitName name).2 = some "json" ↔ IsRecordName name :=
  splitName_eq_some_iff (by decide)

end Path

namespace Disk

variable {d : Disk} {p : Path} {place : Place} {name : String} {e : Entry}

theorem find_eq_ok_iff :
    d.find p = .ok (place, e) ↔ d.locate p = .ok place ∧ d.entry? place = some e := by
  rw [find]
  cases d.locate p with
  | error err => simp [bind, Except.bind]
  | ok q =>
    simp only [bind, Except.bind, pure, Except.pure, throw, throwThe, MonadExceptOf.throw, Except.ok.injEq]
    cases hq : d.entry? q with
    | none =>
      simp only [reduceCtorEq, false_iff, not_and]
      rintro rfl
      simp [hq]
    | some found =>
      simp only [Except.ok.injEq, Prod.mk.injEq]
      constructor
      · rintro ⟨rfl, rfl⟩
        exact ⟨rfl, hq⟩
      · rintro ⟨rfl, he⟩
        exact ⟨rfl, Option.some.inj (hq.symm.trans he)⟩

theorem file_eq_ok_iff {f : File} : d.file p = .ok f ↔ ∃ q, d.find p = .ok (q, .file f) := by
  rw [file]
  cases d.find p with
  | error err => simp [bind, Except.bind]
  | ok found =>
    obtain ⟨q, e⟩ := found
    cases e <;> simp [bind, Except.bind, pure, Except.pure, throw, throwThe, MonadExceptOf.throw]

theorem readText_of_find {f : File} (h : d.find p = .ok (place, .file f)) {text : String}
    (htext : f.text = some text) : d.readText p = .ok text := by
  rw [readText, file_eq_ok_iff.2 ⟨place, h⟩]
  simp only [bind, Except.bind, htext]
  rfl

theorem list_eq_ok_iff {names : List String} :
    d.list p = .ok names ↔ ∃ q, d.find p = .ok (q, .directory) ∧ d.namesAt q = names := by
  rw [list]
  cases d.find p with
  | error err => simp [bind, Except.bind]
  | ok found =>
    obtain ⟨q, e⟩ := found
    cases e <;> simp [bind, Except.bind, pure, Except.pure, throw, throwThe, MonadExceptOf.throw]

theorem childName?_eq_some_iff {q : Place} : childName? place q = some name ↔ q = place ++ [name] := by
  rw [childName?]
  constructor
  · intro h
    split at h
    · rename_i hq
      obtain ⟨front, hfront⟩ := List.getLast?_eq_some_iff.1 h
      simp_all
    · cases h
  · rintro rfl
    simp

theorem mem_namesAt : name ∈ d.namesAt place ↔ ∃ e, (place ++ [name], e) ∈ d.entries := by
  simp only [namesAt, List.mem_filterMap, childName?_eq_some_iff]
  constructor
  · rintro ⟨⟨q, e⟩, hmem, rfl⟩
    exact ⟨e, hmem⟩
  · rintro ⟨e, hmem⟩
    exact ⟨_, hmem, rfl⟩

theorem IsTree.nodup_namesAt (hd : d.IsTree) (place : Place) : (d.namesAt place).Nodup := by
  have hnames : d.namesAt place = (d.entries.map (·.1)).filterMap (childName? place) := by
    rw [namesAt, List.filterMap_map]
    rfl
  rw [hnames]
  refine List.Nodup.filterMap ?_ hd.nodup
  intro q r name hq hr
  rw [Option.mem_def, childName?_eq_some_iff] at hq hr
  exact hq.trans hr.symm

theorem base_of_find (h : d.find p = .ok (place, e)) : d.base p = .ok place := by
  obtain ⟨hlocate, -⟩ := find_eq_ok_iff.1 h
  rw [locate] at hlocate
  split at hlocate
  · cases hlocate
  · exact hlocate

theorem locate_join (hname : Path.IsName name) (d : Disk) (p : Path) :
    d.locate (p.join name) = (d.base p).bind fun q => d.follow q [name] := by
  rw [locate, Path.isEmpty_join hname, Path.isAbsolute_join hname, Path.names_join hname]
  exact d.follow_append _ _ _

theorem follow_name (hname : Path.IsName name) {q : Place} (h : d.follow q [name] = .ok place) :
    d.entry? q = some .directory ∧ isName name ∧ place = q ++ [name] := by
  have hdirectory := entry?_of_follow h
  simp only [follow, hdirectory, beq_iff_eq, hname.ne_dot, hname.ne_dots, if_false] at h
  split at h
  · rename_i hfits
    exact ⟨hdirectory, hfits, (Except.ok.inj h).symm⟩
  · cases h

theorem place_of_find_join (hname : Path.IsName name) (h : d.find (p.join name) = .ok (place, e)) :
    ∃ q, d.base p = .ok q ∧ d.entry? q = some .directory ∧ place = q ++ [name] := by
  obtain ⟨hlocate, -⟩ := find_eq_ok_iff.1 h
  rw [locate_join hname] at hlocate
  obtain ⟨q, hq, hfollow⟩ := exists_of_bind_ok hlocate
  obtain ⟨hdirectory, -, hplace⟩ := follow_name hname hfollow
  exact ⟨q, hq, hdirectory, hplace⟩

namespace IsTree

theorem entry?_iff_mem (hd : d.IsTree) (hplace : place ≠ []) :
    d.entry? place = some e ↔ (place, e) ∈ d.entries :=
  ⟨mem_entries_of_entry_eq hplace, entry?_of_mem hd.nodup hplace⟩

theorem isName_of_entry (hd : d.IsTree) (h : (place ++ [name], e) ∈ d.entries) : Path.IsName name :=
  (hd.names _ h name (by simp)).1

theorem find_join (hd : d.IsTree) {e' : Entry} (hp : d.find p = .ok (place, e'))
    (h : (place ++ [name], e) ∈ d.entries) : d.find (p.join name) = .ok (place ++ [name], e) := by
  rw [find_eq_ok_iff, locate_join (hd.isName_of_entry h), base_of_find hp]
  exact ⟨hd.follow_names h, entry?_of_mem hd.nodup (by simp) h⟩

end IsTree

namespace Extends

variable {d' : Disk}

theorem follow_of_ok (h : d.Extends d') {start q : Place} {names : List String}
    (hq : d.follow start names = .ok q) : d'.follow start names = .ok q :=
  follow_of_directories h.directory hq

theorem locate_of_ok (h : d.Extends d') {q : Place} (hq : d.locate p = .ok q) : d'.locate p = .ok q := by
  rw [locate] at hq ⊢
  split at hq
  · cases hq
  · rename_i hempty
    rw [if_neg hempty, h.here_eq]
    exact h.follow_of_ok hq

theorem find_directory (h : d.Extends d') (hp : d.find p = .ok (place, .directory)) :
    d'.find p = .ok (place, .directory) := by
  obtain ⟨hlocate, hplace⟩ := find_eq_ok_iff.1 hp
  exact find_eq_ok_iff.2 ⟨h.locate_of_ok hlocate, h.directory place hplace⟩

end Extends

structure SameDirectories (d d' : Disk) : Prop where
  here_eq : d'.here = d.here
  directory_iff : ∀ q, d'.entry? q = some .directory ↔ d.entry? q = some .directory

namespace SameDirectories

variable {d' : Disk}

theorem symm (h : SameDirectories d d') : SameDirectories d' d :=
  ⟨h.here_eq.symm, fun q => (h.directory_iff q).symm⟩

theorem toExtends (h : SameDirectories d d') : d.Extends d' :=
  ⟨h.here_eq, fun q => (h.directory_iff q).2⟩

theorem find_directory_iff (h : SameDirectories d d') :
    d'.find p = .ok (place, .directory) ↔ d.find p = .ok (place, .directory) :=
  ⟨h.symm.toExtends.find_directory, h.toExtends.find_directory⟩

end SameDirectories

variable {d' : Disk} {names : List String}

theorem follow_makeAlong (hd : d.IsTree) (hplace : d.entry? place = some .directory)
    (hnames : ∀ name ∈ names, Path.IsStep name) (h : d.makeAlong place names = .ok d') :
    ∃ q, d'.follow place names = .ok q ∧ d'.entry? q = some .directory := by
  induction names generalizing d place with
  | nil =>
    cases h
    exact ⟨place, rfl, hplace⟩
  | cons name rest ih =>
    obtain ⟨hname, hrest⟩ := List.forall_mem_cons.1 hnames
    have hkept := (makeAlong_isTree hd hplace hnames h).2.directory place hplace
    rw [makeAlong] at h
    simp only [follow, hkept]
    split_ifs at h ⊢ with hdot hdots hfits
    · exact ih hd hplace hrest h
    · exact ih hd (hd.entry?_dropLast hplace) hrest h
    · simp only at h
      split at h
      · rename_i hdirectory
        exact ih hd hdirectory hrest h
      · cases h
      · have hne : place ++ [name] ≠ [] := by simp
        have hroom := hasRoom_inside hplace hname hdot hdots hfits
        refine ih (hd.setEntry hne hroom fun _ => rfl) ?_ hrest h
        rw [entry?_setEntry d hne, if_pos rfl]

theorem find_makeDirectories (hd : d.IsTree) (hhere : d.entry? d.here = some .directory)
    (hp : p.isEmpty = false) (h : d.makeDirectories p = .ok d') :
    ∃ q, d'.find p = .ok (q, .directory) := by
  have hstart : d.entry? (if p.isAbsolute then [] else d.here) = some .directory := by
    split
    · rfl
    · exact hhere
  have hextends := (makeDirectories_isTree hd hhere h).2
  rw [makeDirectories, hp] at h
  obtain ⟨q, hfollow, hq⟩ := follow_makeAlong hd hstart p.isStep_of_mem_names h
  refine ⟨q, find_eq_ok_iff.2 ⟨?_, hq⟩⟩
  rw [locate, hp, hextends.here_eq]
  exact hfollow

end Disk

end TestTwins
