import Mathlib.Data.List.Induction
import TestTwins.Proofs.DiskLaws

namespace TestTwins

namespace Path

structure IsStep (name : String) : Prop where
  ne_empty : name ≠ ""
  no_slash : '/' ∉ name.toList

theorem IsStep.isName {name : String} (h : IsStep name) (hdot : name ≠ ".") (hdots : name ≠ "..") :
    IsName name :=
  ⟨h.ne_empty, hdot, hdots, h.no_slash⟩

theorem notMem_of_mem_splitSlash {cs piece : List Char} (h : piece ∈ splitSlash cs) : '/' ∉ piece := by
  induction cs generalizing piece with
  | nil => simp_all [splitSlash]
  | cons c cs ih =>
    by_cases hc : c = '/'
    · subst hc
      rcases List.mem_cons.1 h with rfl | h
      · simp
      · exact ih h
    · obtain ⟨first, rest, hsplit, hcons⟩ := splitSlash_cons hc cs
      rw [hcons] at h
      rcases List.mem_cons.1 h with rfl | h
      · have hfirst : '/' ∉ first := ih (hsplit ▸ List.mem_cons_self)
        simp [hfirst, Ne.symm hc]
      · exact ih (hsplit ▸ List.mem_cons_of_mem first h)

theorem isStep_of_mem_names (p : Path) : ∀ name ∈ p.names, IsStep name := by
  intro name hname
  rw [names_eq] at hname
  have hpiece : name ∈ p.pieces ∧ ∃ front, counts front name := by
    generalize p.pieces = pieces at hname
    cases pieces with
    | nil => cases hname
    | cons first rest =>
      rcases List.mem_append.1 hname with hname | hname
      · split at hname
        · rename_i hcounts
          obtain rfl := List.mem_singleton.1 hname
          exact ⟨List.mem_cons_self, _, hcounts⟩
        · cases hname
      · obtain ⟨hrest, hcounts⟩ := List.mem_filter.1 hname
        exact ⟨List.mem_cons_of_mem first hrest, _, hcounts⟩
  obtain ⟨hmem, front, hcounts⟩ := hpiece
  obtain ⟨piece, hpiece, rfl⟩ := List.mem_map.1 hmem
  refine ⟨?_, by simpa using notMem_of_mem_splitSlash hpiece⟩
  rintro hempty
  simp [counts, hempty] at hcounts

end Path

namespace Disk

/-- A disk as file systems are: every place is taken once, inside a directory, and made of names. -/
structure IsTree (d : Disk) : Prop where
  nodup : (d.entries.map (·.1)).Nodup
  inside : ∀ entry ∈ d.entries, d.entry? entry.1.dropLast = some .directory
  names : ∀ entry ∈ d.entries, ∀ name ∈ entry.1, Path.IsName name ∧ isName name

theorem mem_entries_of_entry_eq {d : Disk} {place : Place} {e : Entry} (hplace : place ≠ [])
    (h : d.entry? place = some e) : (place, e) ∈ d.entries := by
  unfold entry? at h
  rw [if_neg (by simpa using hplace)] at h
  obtain ⟨before, after, hentries, -⟩ := List.lookup_eq_some_iff.1 h
  simp [hentries]

theorem entry?_of_mem {d : Disk} (hnodup : (d.entries.map (·.1)).Nodup) {place : Place} {e : Entry}
    (hplace : place ≠ []) (h : (place, e) ∈ d.entries) : d.entry? place = some e := by
  unfold entry?
  rw [if_neg (by simpa using hplace), List.lookup_eq_some_iff]
  obtain ⟨before, after, hentries⟩ := List.append_of_mem h
  refine ⟨before, after, hentries, fun entry hentry => ?_⟩
  rw [hentries, List.map_append, List.map_cons, List.nodup_append] at hnodup
  have hne := hnodup.2.2 entry.1 (List.mem_map_of_mem hentry) place List.mem_cons_self
  simpa using hne.symm

theorem mem_descendants {d : Disk} {place : Place} {names : List String} {e : Entry} :
    (names, e) ∈ d.descendants place ↔ names ≠ [] ∧ (place ++ names, e) ∈ d.entries := by
  have hbelow : ∀ q : Place, below? place q = some names ↔ names ≠ [] ∧ place ++ names = q := by
    intro q
    simp only [below?, Bool.and_eq_true, List.isPrefixOf_iff_prefix, decide_eq_true_eq]
    constructor
    · intro h
      split at h
      · rename_i hq
        obtain ⟨⟨rest, rfl⟩, hlength⟩ := hq
        cases h
        simp at hlength ⊢
        exact List.length_pos_iff.1 hlength
      · cases h
    · rintro ⟨hne, rfl⟩
      have hpos := List.length_pos_iff.2 hne
      simp [hpos]
  simp only [descendants, List.mem_mergeSort, List.mem_filterMap, Option.map_eq_some_iff, Prod.mk.injEq]
  constructor
  · rintro ⟨⟨q, e'⟩, hmem, names', hnames, rfl, rfl⟩
    obtain ⟨hne, rfl⟩ := (hbelow q).1 hnames
    exact ⟨hne, hmem⟩
  · rintro ⟨hne, hmem⟩
    exact ⟨_, hmem, names, (hbelow _).2 ⟨hne, rfl⟩, rfl, rfl⟩

namespace IsTree

variable {d : Disk} {place : Place} {names : List String} {e : Entry}

theorem directory_above (hd : d.IsTree) (hnames : names ≠ []) (h : (place ++ names, e) ∈ d.entries) :
    d.entry? place = some .directory := by
  induction names using List.reverseRecOn generalizing e with
  | nil => exact absurd rfl hnames
  | append_singleton front last ih =>
    have habove : d.entry? (place ++ front) = some .directory := by
      simpa [← List.append_assoc] using hd.inside _ h
    by_cases hfront : front = []
    · simpa [hfront] using habove
    · exact ih hfront (mem_entries_of_entry_eq (by simp [hfront]) habove)

theorem follow_names (hd : d.IsTree) (h : (place ++ names, e) ∈ d.entries) :
    d.follow place names = .ok (place ++ names) := by
  induction names generalizing place with
  | nil => simp [follow]
  | cons name rest ih =>
    obtain ⟨hname, hfits⟩ := hd.names _ h name (by simp)
    have hrest : (place ++ [name] ++ rest, e) ∈ d.entries := by simpa using h
    rw [follow, hd.directory_above (List.cons_ne_nil name rest) h]
    simp [hname.ne_dot, hname.ne_dots, hfits, ih hrest]

end IsTree

def HasRoom (d : Disk) (place : Place) : Prop :=
  place = [] ∨ ∃ front name, place = front ++ [name] ∧ d.entry? front = some .directory ∧
    Path.IsName name ∧ isName name

theorem hasRoom_inside {d : Disk} {place : Place} {name : String} (hplace : d.entry? place = some .directory)
    (hname : Path.IsStep name) (hdot : ¬ name == ".") (hdots : ¬ name == "..") (hfits : isName name) :
    d.HasRoom (place ++ [name]) :=
  .inr ⟨place, name, rfl, hplace, hname.isName (by simpa using hdot) (by simpa using hdots), hfits⟩

namespace IsTree

variable {d d' : Disk} {place q : Place} {names : List String} {e : Entry}

theorem hasRoom (hd : d.IsTree) (h : d.entry? place = some e) : d.HasRoom place := by
  induction place using List.reverseRecOn with
  | nil => exact .inl rfl
  | append_singleton front name =>
    have hmem := mem_entries_of_entry_eq (by simp) h
    exact .inr ⟨front, name, rfl, by simpa using hd.inside _ hmem, hd.names _ hmem name (by simp)⟩

theorem entry?_dropLast (hd : d.IsTree) (h : d.entry? place = some .directory) :
    d.entry? place.dropLast = some .directory := by
  obtain rfl | ⟨front, name, rfl, hfront, -⟩ := hd.hasRoom h
  · exact h
  · simpa using hfront

theorem hasRoom_follow (hd : d.IsTree) (hnames : ∀ name ∈ names, Path.IsStep name)
    (hplace : d.HasRoom place) (h : d.follow place names = .ok q) : d.HasRoom q := by
  induction names generalizing place with
  | nil =>
    cases h
    exact hplace
  | cons name rest ih =>
    obtain ⟨hname, hrest⟩ := List.forall_mem_cons.1 hnames
    have hdirectory := entry?_of_follow h
    simp only [follow, hdirectory] at h
    split_ifs at h with hdot hdots hfits
    · exact ih hrest hplace h
    · exact ih hrest (hd.hasRoom (hd.entry?_dropLast hdirectory)) h
    · exact ih hrest (hasRoom_inside hdirectory hname hdot hdots hfits) h

theorem hasRoom_locate (hd : d.IsTree) (hhere : d.entry? d.here = some .directory) {p : Path}
    (h : d.locate p = .ok place) : d.HasRoom place := by
  rw [locate] at h
  split at h
  · cases h
  · refine hd.hasRoom_follow p.isStep_of_mem_names ?_ h
    split
    · exact .inl rfl
    · exact hd.hasRoom hhere

end IsTree

theorem keys_putAt (place : Place) (e : Entry) (entries : List (Place × Entry)) :
    (putAt place e entries).map (·.1) =
      if place ∈ entries.map (·.1) then entries.map (·.1) else entries.map (·.1) ++ [place] := by
  induction entries with
  | nil => rfl
  | cons entry entries ih =>
    rw [putAt]
    by_cases hplace : entry.1 = place
    · simp [hplace]
    · rw [if_neg hplace, List.map_cons, ih]
      simp only [List.map_cons, List.mem_cons, Ne.symm hplace, false_or]
      split <;> rfl

theorem mem_putAt {place : Place} {e : Entry} {entries : List (Place × Entry)} {entry : Place × Entry}
    (h : entry ∈ putAt place e entries) : entry = (place, e) ∨ entry ∈ entries := by
  induction entries with
  | nil => exact .inl (List.mem_singleton.1 h)
  | cons first entries ih =>
    rw [putAt] at h
    split at h
    · exact (List.mem_cons.1 h).imp_right (List.mem_cons_of_mem first)
    · rcases List.mem_cons.1 h with rfl | h
      · exact .inr List.mem_cons_self
      · exact (ih h).imp_right (List.mem_cons_of_mem first)

structure Extends (d d' : Disk) : Prop where
  here_eq : d'.here = d.here
  directory : ∀ q, d.entry? q = some .directory → d'.entry? q = some .directory

theorem Extends.refl (d : Disk) : d.Extends d := ⟨rfl, fun _ => id⟩

theorem Extends.trans {d d' d'' : Disk} (h : d.Extends d') (h' : d'.Extends d'') : d.Extends d'' :=
  ⟨h'.here_eq.trans h.here_eq, fun q hq => h'.directory q (h.directory q hq)⟩

section Changes

variable {d d' : Disk} {place : Place} {names : List String} {e : Entry}

theorem extends_setEntry (hplace : place ≠ [])
    (hkeep : d.entry? place = some .directory → e = .directory) : d.Extends (d.setEntry place e) := by
  refine ⟨rfl, fun q hq => ?_⟩
  rw [entry?_setEntry d hplace]
  split
  · rename_i heq
    rw [hkeep (heq ▸ hq)]
  · exact hq

theorem IsTree.setEntry (hd : d.IsTree) (hplace : place ≠ []) (hroom : d.HasRoom place)
    (hkeep : d.entry? place = some .directory → e = .directory) : (d.setEntry place e).IsTree := by
  obtain hroot | ⟨front, name, rfl, hfront, hname⟩ := hroom
  · exact absurd hroot hplace
  have hextends := extends_setEntry hplace hkeep
  refine ⟨?_, fun entry hentry => ?_, fun entry hentry => ?_⟩
  · rw [Disk.setEntry, keys_putAt]
    split
    · exact hd.nodup
    · rename_i hnew
      exact List.nodup_append.2 ⟨hd.nodup, by simp, fun q hq r hr hsame =>
        hnew (List.mem_singleton.1 hr ▸ hsame ▸ hq)⟩
  · rcases mem_putAt hentry with rfl | hentry
    · exact hextends.directory _ (by simpa using hfront)
    · exact hextends.directory _ (hd.inside entry hentry)
  · rcases mem_putAt hentry with rfl | hentry
    · intro part hpart
      rcases List.mem_append.1 hpart with hpart | hpart
      · have hmem := mem_entries_of_entry_eq (List.ne_nil_of_mem hpart) hfront
        exact hd.names _ hmem part hpart
      · exact List.mem_singleton.1 hpart ▸ hname
    · exact hd.names entry hentry

theorem IsTree.setFile (hd : d.IsTree) (hroom : d.HasRoom place) (hfree : ¬ d.isDirectoryAt place)
    (f : File) : (d.setEntry place (.file f)).IsTree ∧ d.Extends (d.setEntry place (.file f)) := by
  have hplace : place ≠ [] := by
    rintro rfl
    exact hfree rfl
  have hkeep : d.entry? place = some .directory → Entry.file f = .directory := fun hdirectory =>
    absurd (by simp [isDirectoryAt, hdirectory]) hfree
  exact ⟨hd.setEntry hplace hroom hkeep, extends_setEntry hplace hkeep⟩

theorem isTree_empty (here : Place) : (Disk.mk [] here).IsTree :=
  ⟨List.nodup_nil, by simp, by simp⟩

theorem IsTree.write (hd : d.IsTree) (hhere : d.entry? d.here = some .directory) {now : Int} {p : Path}
    {text : Option String} (h : d.write now p text = .ok d') : d'.IsTree := by
  obtain ⟨place, hlocate, h⟩ := exists_of_bind_ok h
  split at h
  · cases h
  rename_i hfree
  split at h
  · cases h
    exact (hd.setFile (hd.hasRoom_locate hhere hlocate) hfree _).1
  · split at h <;> cases h

theorem makeAlong_isTree (hd : d.IsTree) (hplace : d.entry? place = some .directory)
    (hnames : ∀ name ∈ names, Path.IsStep name) (h : d.makeAlong place names = .ok d') :
    d'.IsTree ∧ d.Extends d' := by
  induction names generalizing d place with
  | nil =>
    cases h
    exact ⟨hd, .refl _⟩
  | cons name rest ih =>
    obtain ⟨hname, hrest⟩ := List.forall_mem_cons.1 hnames
    rw [makeAlong] at h
    split_ifs at h with hdot hdots hfits
    · exact ih hd hplace hrest h
    · exact ih hd (hd.entry?_dropLast hplace) hrest h
    · have hroom := hasRoom_inside hplace hname hdot hdots hfits
      have hne : place ++ [name] ≠ [] := by simp
      simp only at h
      split at h
      · rename_i hdirectory
        exact ih hd hdirectory hrest h
      · cases h
      · have hmade : entry? (d.setEntry (place ++ [name]) .directory) (place ++ [name]) = some .directory := by
          rw [entry?_setEntry d hne, if_pos rfl]
        obtain ⟨htree, hextends⟩ := ih (hd.setEntry hne hroom fun _ => rfl) hmade hrest h
        exact ⟨htree, (extends_setEntry hne fun _ => rfl).trans hextends⟩

theorem makeDirectories_isTree (hd : d.IsTree) (hhere : d.entry? d.here = some .directory) {p : Path}
    (h : d.makeDirectories p = .ok d') : d'.IsTree ∧ d.Extends d' := by
  rw [makeDirectories] at h
  split at h
  · cases h
    exact ⟨hd, .refl d⟩
  · refine makeAlong_isTree hd ?_ p.isStep_of_mem_names h
    split
    · rfl
    · exact hhere

theorem IsTree.install (hd : d.IsTree) (hhere : d.entry? d.here = some .directory) (now : Int) (p : Path)
    (text : Option String) (executable : Bool) :
    (d.install now p text executable).IsTree ∧ d.Extends (d.install now p text executable) := by
  rw [Disk.install]
  generalize habove : (p.parent?.bind fun q => (d.makeDirectories q).toOption).getD d = above
  have hmade : above.IsTree ∧ d.Extends above := by
    subst habove
    cases p.parent? with
    | none => exact ⟨hd, .refl d⟩
    | some q =>
      cases hq : d.makeDirectories q with
      | error err => simpa [hq, Except.toOption] using ⟨hd, .refl d⟩
      | ok made => simpa [hq, Except.toOption] using makeDirectories_isTree hd hhere hq
  obtain ⟨htree, hextends⟩ := hmade
  have hstart : above.entry? above.here = some .directory :=
    hextends.here_eq ▸ hextends.directory _ hhere
  split
  · rename_i place hlocate
    split
    · exact ⟨htree, hextends⟩
    · rename_i hfree
      obtain ⟨hput, hkept⟩ := htree.setFile (htree.hasRoom_locate hstart hlocate) hfree _
      exact ⟨hput, hextends.trans hkept⟩
  · exact ⟨htree, hextends⟩

def ofFiles (files : List (Path × String)) : Disk :=
  files.foldl (fun d file => d.install 0 file.1 (some file.2) false) ⟨[], []⟩

theorem isTree_ofFiles (files : List (Path × String)) : (ofFiles files).IsTree := by
  suffices h : ∀ d : Disk, d.IsTree → d.entry? d.here = some .directory →
      (files.foldl (fun d file => d.install 0 file.1 (some file.2) false) d).IsTree from
    h _ (isTree_empty []) rfl
  intro d hd hhere
  induction files generalizing d with
  | nil => exact hd
  | cons file files ih =>
    obtain ⟨htree, hextends⟩ := hd.install hhere 0 file.1 (some file.2) false
    exact ih _ htree (hextends.here_eq ▸ hextends.directory _ hhere)

theorem IsTree.filter (hd : d.IsTree) (keep : Place × Entry → Bool)
    (hkeep : ∀ entry ∈ d.entries, keep entry → entry.1.dropLast ≠ [] →
      keep (entry.1.dropLast, .directory)) :
    ({ d with entries := d.entries.filter keep } : Disk).IsTree := by
  have hnodup : ((d.entries.filter keep).map (·.1)).Nodup :=
    hd.nodup.sublist (List.filter_sublist.map _)
  refine ⟨hnodup, fun entry hentry => ?_, fun entry hentry => ?_⟩
  · obtain ⟨hmem, hkept⟩ := List.mem_filter.1 hentry
    by_cases hroot : entry.1.dropLast = []
    · rw [hroot]
      rfl
    · have habove := mem_entries_of_entry_eq hroot (hd.inside entry hmem)
      exact entry?_of_mem hnodup hroot (List.mem_filter.2 ⟨habove, hkeep entry hmem hkept hroot⟩)
  · exact hd.names entry (List.mem_filter.1 hentry).1

theorem IsTree.remove (hd : d.IsTree) {p : Path} (h : d.remove p = .ok d') : d'.IsTree := by
  obtain ⟨⟨place, e⟩, hfind, h⟩ := exists_of_bind_ok h
  cases e with
  | directory => cases h
  | file f =>
    cases h
    have hfile : d.entry? place = some (.file f) := by
      obtain ⟨q, -, hfind⟩ := exists_of_bind_ok hfind
      split at hfind
      · cases hfind
        assumption
      · cases hfind
    refine hd.filter _ fun entry hentry _ _ => ?_
    rw [bne_iff_ne]
    rintro rfl
    cases (hd.inside entry hentry).symm.trans hfile

theorem IsTree.removeAll (hd : d.IsTree) (p : Path) : (d.removeAll p).IsTree := by
  rw [Disk.removeAll]
  split
  · refine hd.filter _ fun entry _ hkept _ => ?_
    simp only [Bool.not_eq_true', Bool.eq_false_iff, ne_eq, List.isPrefixOf_iff_prefix] at hkept ⊢
    exact fun hbelow => hkept (hbelow.trans (List.dropLast_prefix entry.1))
  · exact hd

end Changes

end Disk

end TestTwins
