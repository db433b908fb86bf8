import TestTwins.Disk
import TestTwins.Proofs.PathLaws

namespace TestTwins

theorem exists_of_bind_ok {ε α β : Type} {x : Except ε α} {f : α → Except ε β} {b : β}
    (h : x.bind f = .ok b) : ∃ a, x = .ok a ∧ f a = .ok b := by
  cases x with
  | error e => cases h
  | ok a => exact ⟨a, rfl, h⟩

theorem exists_of_isOk {ε α : Type} {x : Except ε α} (h : x.isOk) : ∃ a, x = .ok a := by
  cases x with
  | error e => cases h
  | ok a => exact ⟨a, rfl⟩

namespace Disk

theorem lookup_putAt (place q : Place) (e : Entry) (entries : List (Place × Entry)) :
    (putAt place e entries).lookup q = if q = place then some e else entries.lookup q := by
  induction entries with
  | nil =>
    by_cases hq : q = place
    · simp [putAt, hq]
    · simp [putAt, hq, List.lookup_cons, beq_eq_false_iff_ne.2 hq]
  | cons entry entries ih =>
    obtain ⟨r, f⟩ := entry
    by_cases hr : r = place
    · subst hr
      by_cases hq : q = r
      · simp [putAt, hq]
      · simp [putAt, hq, List.lookup_cons, beq_eq_false_iff_ne.2 hq]
    · rw [putAt, if_neg hr, List.lookup_cons, List.lookup_cons, ih]
      by_cases hq : q = r
      · subst hq
        simp [hr]
      · simp [beq_eq_false_iff_ne.2 hq]

theorem entry?_setEntry (d : Disk) {place : Place} (hplace : place ≠ []) (e : Entry) (q : Place) :
    entry? (d.setEntry place e) q = if q = place then some e else d.entry? q := by
  simp only [setEntry, entry?, lookup_putAt]
  by_cases hq : q = []
  · subst hq
    simp [Ne.symm hplace]
  · simp [hq]

theorem follow_append (d : Disk) (place : Place) (a b : List String) :
    d.follow place (a ++ b) = (d.follow place a).bind fun q => d.follow q b := by
  induction a generalizing place with
  | nil => rfl
  | cons name a ih =>
    simp only [List.cons_append, follow]
    cases d.entry? place with
    | none => rfl
    | some e =>
      cases e with
      | file f => rfl
      | directory =>
        simp only
        split
        · exact ih place
        · split
          · exact ih place.dropLast
          · split
            · exact ih (place ++ [name])
            · rfl

theorem follow_of_directories {d d' : Disk}
    (h : ∀ q, d.entry? q = some .directory → d'.entry? q = some .directory) {place q : Place}
    {names : List String} (hfollow : d.follow place names = .ok q) : d'.follow place names = .ok q := by
  induction names generalizing place with
  | nil => exact hfollow
  | cons name names ih =>
    simp only [follow] at hfollow
    split at hfollow
    · cases hfollow
    · cases hfollow
    · rename_i hdir
      simp only [follow, h place hdir]
      split_ifs at hfollow ⊢
      · exact ih hfollow
      · exact ih hfollow
      · exact ih hfollow

/-- The place from which what is inside a path is looked up. Unlike other paths the empty one counts, as
the working directory. -/
def base (d : Disk) (p : Path) : Except DiskError Place :=
  d.follow (if p.isAbsolute then [] else d.here) p.names

theorem locate_join_join {folder name : String} (hfolder : Path.IsName folder)
    (hname : Path.IsName name) (d : Disk) (p : Path) :
    d.locate ((p.join folder).join name) = (d.base p).bind fun q => d.follow q [folder, name] := by
  have hne : ((p.join folder).join name).isEmpty = false := Path.isEmpty_join hname _
  rw [locate, hne, Path.isAbsolute_join hname, Path.isAbsolute_join hfolder, Path.names_join hname,
    Path.names_join hfolder, List.append_assoc]
  exact d.follow_append _ _ _

theorem follow_folder {folder name : String} (hfolder : Path.IsName folder) (hname : Path.IsName name)
    (d : Disk) {q : Place} (hq : d.entry? q = some .directory) :
    d.follow q [folder, name] =
      if isName folder then
        match d.entry? (q ++ [folder]) with
        | none => .error .notFound
        | some (.file _) => .error .notDirectory
        | some .directory => if isName name then .ok (q ++ [folder, name]) else .error .badName
      else .error .badName := by
  cases hinner : d.entry? (q ++ [folder]) with
  | none => simp [follow, hq, hinner, hfolder.ne_dot, hfolder.ne_dots]
  | some e =>
    cases e with
    | file f => simp [follow, hq, hinner, hfolder.ne_dot, hfolder.ne_dots]
    | directory =>
      simp [follow, hq, hinner, hfolder.ne_dot, hfolder.ne_dots, hname.ne_dot, hname.ne_dots]

theorem entry?_of_follow {d : Disk} {q place : Place} {name : String} {names : List String}
    (h : d.follow q (name :: names) = .ok place) : d.entry? q = some .directory := by
  simp only [follow] at h
  split at h
  · cases h
  · cases h
  · assumption

structure Wrote (d d' : Disk) (place : Place) (f : File) : Prop where
  here_eq : d'.here = d.here
  parent : d.entry? place.dropLast = some .directory
  free : d.entry? place ≠ some .directory
  entry_eq : d'.entry? place = some (.file f)
  other : ∀ q, q ≠ place → d'.entry? q = d.entry? q

theorem write_ok {d d' : Disk} {now : Int} {p : Path} {text : Option String}
    (h : d.write now p text = .ok d') :
    ∃ place executable, d.locate p = .ok place ∧ Wrote d d' place ⟨text, executable, now⟩ := by
  obtain ⟨place, hplace, h⟩ := exists_of_bind_ok h
  split at h
  · cases h
  rename_i hfree
  split at h
  · rename_i hparent
    cases h
    have hroot : place ≠ [] := by
      rintro rfl
      exact hfree rfl
    refine ⟨place, d.isExecutableAt place, hplace, rfl, by simpa [isDirectoryAt] using hparent,
      by simpa [isDirectoryAt] using hfree, ?_, ?_⟩
    · rw [entry?_setEntry d hroot, if_pos rfl]
    · intro q hq
      rw [entry?_setEntry d hroot, if_neg hq]
  · split at h <;> cases h

namespace Wrote

variable {d d' : Disk} {place : Place} {f : File}

theorem directory (h : Wrote d d' place f) {q : Place} (hq : d.entry? q = some .directory) :
    d'.entry? q = some .directory := by
  rw [h.other q, hq]
  rintro rfl
  exact h.free hq

theorem follow_eq (h : Wrote d d' place f) {start q : Place} {names : List String}
    (hfollow : d.follow start names = .ok q) : d'.follow start names = .ok q :=
  follow_of_directories (fun _ => h.directory) hfollow

theorem base_eq (h : Wrote d d' place f) {root : Path} {q : Place} (hq : d.base root = .ok q) :
    d'.base root = .ok q := by
  rw [base, h.here_eq]
  exact h.follow_eq hq

theorem locate_eq (h : Wrote d d' place f) {p : Path} {q : Place} (hq : d.locate p = .ok q) :
    d'.locate p = .ok q := by
  rw [locate] at hq ⊢
  split at hq
  · cases hq
  · rename_i hempty
    rw [if_neg hempty, h.here_eq]
    exact h.follow_eq hq

end Wrote

theorem write_again {d d' : Disk} {now : Int} {p : Path} {text : Option String}
    (h : d.write now p text = .ok d') (later : Int) (text' : Option String) :
    ∃ d'', d'.write later p text' = .ok d'' := by
  obtain ⟨place, executable, hplace, hwrote⟩ := write_ok h
  have hfree : d'.isDirectoryAt place = false := by
    rw [isDirectoryAt, hwrote.entry_eq]
    rfl
  have hparent : d'.isDirectoryAt place.dropLast := by
    rw [isDirectoryAt, hwrote.directory hwrote.parent]
    rfl
  refine ⟨d'.setEntry place (.file ⟨text', d'.isExecutableAt place, later⟩), ?_⟩
  rw [write, hwrote.locate_eq hplace]
  simp only [bind, Except.bind, hfree, hparent]
  rfl

theorem find_folder {d : Disk} {root : Path} {folder name : String} {q : Place}
    (hfolder : Path.IsName folder) (hname : Path.IsName name) (hq : d.base root = .ok q) :
    d.find ((root.join folder).join name) = (d.follow q [folder, name]).bind fun place =>
      match d.entry? place with
      | some e => .ok (place, e)
      | none => .error .notFound := by
  have hplace : d.locate ((root.join folder).join name) = d.follow q [folder, name] := by
    rw [locate_join_join hfolder hname, hq]
    rfl
  rw [find, hplace]
  rfl

theorem find_folder_congr {d d' : Disk} {root : Path} {folder name : String} {q : Place}
    (hfolder : Path.IsName folder) (hname : Path.IsName name) (hq : d.base root = .ok q)
    (hq' : d'.base root = .ok q) (hdir : d.entry? q = some .directory)
    (hdir' : d'.entry? q = some .directory) (hinner : d'.entry? (q ++ [folder]) = d.entry? (q ++ [folder]))
    (hsame : d'.entry? (q ++ [folder, name]) = d.entry? (q ++ [folder, name])) :
    d'.find ((root.join folder).join name) = d.find ((root.join folder).join name) := by
  rw [find_folder hfolder hname hq, find_folder hfolder hname hq', follow_folder hfolder hname d hdir,
    follow_folder hfolder hname d' hdir', hinner]
  split
  · split
    · rfl
    · rfl
    · split
      · simp only [Except.bind, hsame]
      · rfl
  · rfl

section

variable {d d' : Disk} {now : Int} {root : Path} {folder name : String} {text : Option String}

theorem write_folder (hfolder : Path.IsName folder) (hname : Path.IsName name)
    (h : d.write now ((root.join folder).join name) text = .ok d') :
    ∃ q executable, d.base root = .ok q ∧ d.follow q [folder, name] = .ok (q ++ [folder, name]) ∧
      Wrote d d' (q ++ [folder, name]) ⟨text, executable, now⟩ := by
  obtain ⟨place, executable, hplace, hwrote⟩ := write_ok h
  rw [locate_join_join hfolder hname] at hplace
  obtain ⟨q, hq, hfollow⟩ := exists_of_bind_ok hplace
  have hplace' : place = q ++ [folder, name] := by
    rw [follow_folder hfolder hname d (entry?_of_follow hfollow)] at hfollow
    repeat' split at hfollow
    all_goals cases hfollow
    rfl
  subst hplace'
  exact ⟨q, executable, hq, hfollow, hwrote⟩

theorem readText_write (hfolder : Path.IsName folder) (hname : Path.IsName name) {t : String}
    (h : d.write now ((root.join folder).join name) (some t) = .ok d') :
    d'.readText ((root.join folder).join name) = .ok t := by
  obtain ⟨q, executable, hq, hfollow, hwrote⟩ := write_folder hfolder hname h
  have hfind : d'.find ((root.join folder).join name) =
      .ok (q ++ [folder, name], .file ⟨some t, executable, now⟩) := by
    rw [find_folder hfolder hname (hwrote.base_eq hq), hwrote.follow_eq hfollow]
    simp only [Except.bind, hwrote.entry_eq]
  rw [readText, file, hfind]
  rfl

theorem find_write_of_ne {folder' name' : String} (hfolder : Path.IsName folder)
    (hname : Path.IsName name) (hfolder' : Path.IsName folder') (hname' : Path.IsName name')
    (hne : [folder', name'] ≠ [folder, name])
    (h : d.write now ((root.join folder).join name) text = .ok d') :
    d'.find ((root.join folder').join name') = d.find ((root.join folder').join name') := by
  obtain ⟨q, executable, hq, hfollow, hwrote⟩ := write_folder hfolder hname h
  have hdir := entry?_of_follow hfollow
  exact find_folder_congr hfolder' hname' hq (hwrote.base_eq hq) hdir (hwrote.directory hdir)
    (hwrote.other _ (by simp)) (hwrote.other _ (by simpa using hne))

theorem readText_write_of_ne {folder' name' : String} (hfolder : Path.IsName folder)
    (hname : Path.IsName name) (hfolder' : Path.IsName folder') (hname' : Path.IsName name')
    (hne : [folder', name'] ≠ [folder, name])
    (h : d.write now ((root.join folder).join name) text = .ok d') :
    d'.readText ((root.join folder').join name') = d.readText ((root.join folder').join name') := by
  rw [readText, file, find_write_of_ne hfolder hname hfolder' hname' hne h]
  rfl

end

theorem isFile_of_readText {d : Disk} {p : Path} {t : String} (h : d.readText p = .ok t) :
    d.isFile p := by
  obtain ⟨f, hfile, -⟩ := exists_of_bind_ok h
  obtain ⟨⟨place, e⟩, hfind, hf⟩ := exists_of_bind_ok hfile
  cases e with
  | file g => simp only [isFile, hfind]
  | directory => cases hf

theorem isFile_of_directories {d : Disk} (h : ∀ e ∈ d.entries, e.2 = .directory) (p : Path) :
    d.isFile p = false := by
  have hentry : ∀ place f, d.entry? place ≠ some (.file f) := by
    intro place f hf
    unfold entry? at hf
    split at hf
    · cases hf
    · obtain ⟨before, after, hentries, -⟩ := List.lookup_eq_some_iff.1 hf
      have hmem : (place, Entry.file f) ∈ d.entries := by simp [hentries]
      cases h _ hmem
  rw [isFile]
  split
  · rename_i place f hfind
    obtain ⟨q, hq, hmatch⟩ := exists_of_bind_ok hfind
    split at hmatch
    · rename_i e he
      cases hmatch
      exact absurd he (hentry _ _)
    · cases hmatch
  · rfl

end Disk

end TestTwins
