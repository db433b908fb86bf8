import TestTwins.Proofs.Folders
import TestTwins.Proofs.MomentLaws

/-! What is removed when records expire. A pass takes one name after the other and only ever takes files
away, so all directories stay and what a later step sees of the other names is what was there at first. -/

namespace TestTwins

namespace Disk

section Without

variable {d : Disk} {gone more : Place → Prop} {place : Place} {e : Entry}

open Classical in
noncomputable def without (d : Disk) (gone : Place → Prop) : Disk :=
  { d with entries := d.entries.filter fun entry => ¬ gone entry.1 }

open Classical in
noncomputable def count (d : Disk) (kind : Place → Prop) : Nat := d.entries.countP fun entry => kind entry.1

def OnlyFiles (d : Disk) (gone : Place → Prop) : Prop :=
  ∀ q, gone q → ∃ f, d.entry? q = some (.file f)

theorem mem_without {entry : Place × Entry} :
    entry ∈ (d.without gone).entries ↔ entry ∈ d.entries ∧ ¬ gone entry.1 := by
  simp [without]

theorem without_of_forall_not (h : ∀ q, ¬ gone q) : d.without gone = d := by
  simp [without, h]

theorem without_without : (d.without gone).without more = d.without fun q => gone q ∨ more q := by
  simp only [without, List.filter_filter, mk.injEq, and_true]
  refine List.filter_congr fun entry _ => ?_
  by_cases h : gone entry.1 <;> simp [h]

theorem eraseAt_eq_without (d : Disk) (place : Place) : d.eraseAt place = d.without (· = place) := by
  simp only [eraseAt, without, mk.injEq, and_true]
  refine List.filter_congr fun entry _ => ?_
  by_cases h : entry.1 = place <;> simp [h]

theorem count_eq_zero (h : ∀ q, ¬ gone q) : d.count gone = 0 := by
  simp [count, h]

theorem count_without (h : ∀ q, more q → ¬ gone q) : (d.without gone).count more = d.count more := by
  simp only [count, without, List.countP_filter]
  refine List.countP_congr fun entry _ => ?_
  simpa using h entry.1

theorem OnlyFiles.not_directory (h : d.OnlyFiles gone) (hplace : d.entry? place = some .directory) :
    ¬ gone place := by
  intro hgone
  obtain ⟨f, hf⟩ := h place hgone
  cases hplace.symm.trans hf

theorem OnlyFiles.or (h : d.OnlyFiles gone) (h' : d.OnlyFiles more) :
    d.OnlyFiles fun q => gone q ∨ more q :=
  fun q hq => hq.elim (h q) (h' q)

variable (hd : d.IsTree) (hfiles : d.OnlyFiles gone)
include hd hfiles

theorem IsTree.without : (d.without gone).IsTree := by
  refine hd.filter _ fun entry hentry _ _ => ?_
  simpa using hfiles.not_directory (hd.inside entry hentry)

theorem entry?_without :
    entry? (d.without gone) place = some e ↔ d.entry? place = some e ∧ ¬ gone place := by
  by_cases hroot : place = []
  · subst hroot
    have hkept : ¬ gone [] := hfiles.not_directory rfl
    simp [hkept, entry?]
  · rw [(hd.without hfiles).entry?_iff_mem hroot, hd.entry?_iff_mem hroot, mem_without]

theorem sameDirectories_without : SameDirectories d (d.without gone) := by
  refine ⟨rfl, fun q => ?_⟩
  rw [entry?_without hd hfiles, and_iff_left_iff_imp]
  exact hfiles.not_directory

end Without

end Disk

namespace Retention

open Moment (InCalendar dayNanos)

variable {refused : Path → Bool} {d : Disk} {cutoff : Int} {directory : Path} {above place : Place}
  {name : String} {names : List String}

def IsExpired (refused : Path → Bool) (d : Disk) (cutoff : Int) (directory : Path) (place : Place) : Prop :=
  ∃ above name f, d.find directory = .ok (above, .directory) ∧ place = above ++ [name] ∧
    Path.IsRecordName name ∧ d.entry? place = some (.file f) ∧ f.modified < cutoff ∧
    refused (directory.join name) = false

theorem onlyFiles_isExpired : d.OnlyFiles (IsExpired refused d cutoff directory) := by
  rintro place ⟨above, name, f, -, -, -, hf, -⟩
  exact ⟨f, hf⟩

theorem isExpired_iff (hdir : d.find directory = .ok (above, .directory)) :
    IsExpired refused d cutoff directory (above ++ [name]) ↔ Path.IsRecordName name ∧
      (∃ f, d.entry? (above ++ [name]) = some (.file f) ∧ f.modified < cutoff) ∧
      refused (directory.join name) = false := by
  constructor
  · rintro ⟨above', name', f, hdir', hplace, hname, hf, hold, hkept⟩
    cases hdir.symm.trans hdir'
    obtain rfl : name = name' := by simpa using hplace
    exact ⟨hname, ⟨f, hf, hold⟩, hkept⟩
  · rintro ⟨hname, ⟨f, hf, hold⟩, hkept⟩
    exact ⟨above, name, f, hdir, rfl, hname, hf, hold, hkept⟩

theorem isExpired_without (hd : d.IsTree) {gone : Place → Prop} (hfiles : d.OnlyFiles gone) :
    IsExpired refused (d.without gone) cutoff directory place ↔
      IsExpired refused d cutoff directory place ∧ ¬ gone place := by
  have hsame := Disk.sameDirectories_without hd hfiles
  simp only [IsExpired, hsame.find_directory_iff, Disk.entry?_without hd hfiles]
  constructor
  · rintro ⟨above, name, f, hdir, hplace, hname, ⟨hf, hstays⟩, hold, hkept⟩
    exact ⟨⟨above, name, f, hdir, hplace, hname, hf, hold, hkept⟩, hstays⟩
  · rintro ⟨⟨above, name, f, hdir, hplace, hname, hf, hold, hkept⟩, hstays⟩
    exact ⟨above, name, f, hdir, hplace, hname, ⟨hf, hstays⟩, hold, hkept⟩

section Step

variable (hd : d.IsTree) (hdir : d.find directory = .ok (above, .directory)) {e : Entry}
  (hlisted : (above ++ [name], e) ∈ d.entries)
include hd hdir hlisted

theorem isOlder_iff : isOlder d (.ofNanos cutoff) (directory.join name) ↔
    ∃ f, d.entry? (above ++ [name]) = some (.file f) ∧ f.modified < cutoff := by
  have hfind := hd.find_join hdir hlisted
  have hentry := Disk.entry?_of_mem hd.nodup (by simp) hlisted
  cases e with
  | directory =>
    have hnone : ∀ f, d.file (directory.join name) ≠ .ok f := by
      intro f hf
      obtain ⟨q, hq⟩ := Disk.file_eq_ok_iff.1 hf
      cases hfind.symm.trans hq
    rw [isOlder]
    split
    · rename_i f hf
      exact absurd hf (hnone f)
    · simp [hentry]
  | file f =>
    have hfile : d.file (directory.join name) = .ok f := Disk.file_eq_ok_iff.2 ⟨_, hfind⟩
    simp [isOlder, hfile, hentry, ← Bool.not_eq_true, Moment.le_ofNanos]

theorem removeIfExpired_of_isExpired (n : Nat)
    (h : IsExpired refused d cutoff directory (above ++ [name])) :
    removeIfExpired refused (.ofNanos cutoff) directory (d, n) name =
      (d.without (· = above ++ [name]), n + 1) := by
  obtain ⟨hname, hold, hkept⟩ := (isExpired_iff hdir).1 h
  have holder := (isOlder_iff hd hdir hlisted).2 hold
  have hremove : d.remove (directory.join name) = .ok (d.without (· = above ++ [name])) := by
    obtain ⟨f, hf, -⟩ := hold
    have hfind := hd.find_join hdir ((hd.entry?_iff_mem (by simp)).1 hf)
    rw [Disk.remove, hfind, ← Disk.eraseAt_eq_without]
    rfl
  rw [← Path.splitName_eq_json_iff] at hname
  simp [removeIfExpired, hname, holder, hkept, hremove]

theorem removeIfExpired_of_not_isExpired (n : Nat)
    (h : ¬ IsExpired refused d cutoff directory (above ++ [name])) :
    removeIfExpired refused (.ofNanos cutoff) directory (d, n) name = (d, n) := by
  rw [isExpired_iff hdir, ← isOlder_iff hd hdir hlisted, ← Path.splitName_eq_json_iff] at h
  rw [removeIfExpired, if_neg]
  simpa [and_assoc] using h

open Classical in
theorem removeIfExpired_eq (n : Nat) :
    removeIfExpired refused (.ofNanos cutoff) directory (d, n) name =
      (d.without fun place => place = above ++ [name] ∧ IsExpired refused d cutoff directory place,
        n + if IsExpired refused d cutoff directory (above ++ [name]) then 1 else 0) := by
  by_cases h : IsExpired refused d cutoff directory (above ++ [name])
  · have honly : (fun place => place = above ++ [name] ∧ IsExpired refused d cutoff directory place) =
        (· = above ++ [name]) := by
      funext place
      exact propext (and_iff_left_of_imp fun hplace => hplace ▸ h)
    rw [removeIfExpired_of_isExpired hd hdir hlisted n h, if_pos h, honly]
  · rw [removeIfExpired_of_not_isExpired hd hdir hlisted n h, if_neg h, Disk.without_of_forall_not]
    · rfl
    · rintro place ⟨rfl, hplace⟩
      exact h hplace

end Step

def ExpiredAmong (refused : Path → Bool) (d : Disk) (cutoff : Int) (directory : Path) (above : Place)
    (names : List String) (place : Place) : Prop :=
  (∃ name ∈ names, place = above ++ [name]) ∧ IsExpired refused d cutoff directory place

theorem onlyFiles_expiredAmong : d.OnlyFiles (ExpiredAmong refused d cutoff directory above names) :=
  fun place h => onlyFiles_isExpired place h.2

theorem expiredAmong_concat :
    ExpiredAmong refused d cutoff directory above (names ++ [name]) place ↔
      ExpiredAmong refused d cutoff directory above names place ∨
        place = above ++ [name] ∧ IsExpired refused d cutoff directory place := by
  simp only [ExpiredAmong, List.mem_append, List.mem_singleton, or_and_right, exists_or, exists_eq_left]

open Classical in
/-- After some of the names, those of them that are expired are gone. The names that follow are untouched,
so that they are judged as at the start. -/
theorem foldl_removeIfExpired (hd : d.IsTree) (hdir : d.find directory = .ok (above, .directory))
    (hnodup : names.Nodup) (hlisted : ∀ name ∈ names, ∃ e, (above ++ [name], e) ∈ d.entries) :
    names.foldl (removeIfExpired refused (.ofNanos cutoff) directory) (d, 0) =
      (d.without (ExpiredAmong refused d cutoff directory above names),
        names.countP fun name => IsExpired refused d cutoff directory (above ++ [name])) := by
  induction names using List.reverseRecOn with
  | nil =>
    rw [Disk.without_of_forall_not]
    · rfl
    · rintro place ⟨⟨name, hname, -⟩, -⟩
      cases hname
  | append_singleton front name ih =>
    obtain ⟨hfront, -, hnew⟩ := List.nodup_append.1 hnodup
    obtain ⟨e, he⟩ := hlisted name (List.mem_append_right _ (List.mem_singleton_self name))
    have hfiles : d.OnlyFiles (ExpiredAmong refused d cutoff directory above front) := onlyFiles_expiredAmong
    have hstays : ¬ ExpiredAmong refused d cutoff directory above front (above ++ [name]) := by
      rintro ⟨⟨other, hother, heq⟩, -⟩
      exact hnew other hother name (List.mem_singleton_self name) (by simpa using heq.symm)
    have hdir' := (Disk.sameDirectories_without hd hfiles).find_directory_iff.2 hdir
    have hjudged : ∀ place, place = above ++ [name] →
        (IsExpired refused (d.without (ExpiredAmong refused d cutoff directory above front)) cutoff directory
          place ↔ IsExpired refused d cutoff directory place) := by
      rintro place rfl
      rw [isExpired_without hd hfiles, and_iff_left hstays]
    rw [List.foldl_concat, ih hfront fun other hother => hlisted other (List.mem_append_left _ hother),
      removeIfExpired_eq (hd.without hfiles) hdir' (Disk.mem_without.2 ⟨he, hstays⟩), Disk.without_without,
      List.countP_append, List.countP_singleton]
    congr 1
    · congr 1
      funext place
      rw [eq_iff_iff, expiredAmong_concat]
      exact or_congr_right (and_congr_right (hjudged place))
    · simp only [hjudged _ rfl, decide_eq_true_eq]

theorem removeExpired_eq (hd : d.IsTree) :
    removeExpired refused d (.ofNanos cutoff) directory =
      (d.without (IsExpired refused d cutoff directory), d.count (IsExpired refused d cutoff directory)) := by
  rw [removeExpired]
  cases hlist : d.list directory with
  | error err =>
    have hnone : ∀ place, ¬ IsExpired refused d cutoff directory place := by
      rintro place ⟨above, name, f, hdir, -⟩
      cases hlist.symm.trans (Disk.list_eq_ok_iff.2 ⟨above, hdir, rfl⟩)
    simp only [Disk.without_of_forall_not hnone, Disk.count_eq_zero hnone]
  | ok names =>
    obtain ⟨above, hdir, rfl⟩ := Disk.list_eq_ok_iff.1 hlist
    simp only
    rw [foldl_removeIfExpired hd hdir (hd.nodup_namesAt above) fun name => Disk.mem_namesAt.1]
    have hinside : ∀ place, IsExpired refused d cutoff directory place →
        ∃ name ∈ d.namesAt above, place = above ++ [name] := by
      rintro place ⟨above', name, f, hdir', rfl, -, hf, -⟩
      cases hdir.symm.trans hdir'
      exact ⟨name, Disk.mem_namesAt.2 ⟨_, Disk.mem_entries_of_entry_eq (by simp) hf⟩, rfl⟩
    congr 1
    · congr 1
      funext place
      exact propext (and_iff_right_of_imp (hinside place))
    · rw [Disk.namesAt, Disk.count, List.countP_filterMap]
      refine List.countP_congr fun entry _ => ?_
      cases hchild : Disk.childName? above entry.1 with
      | some name => simp [← Disk.childName?_eq_some_iff.1 hchild]
      | none =>
        simp only [Option.map_none, Option.getD_none, Bool.false_eq_true, decide_eq_true_eq, false_iff]
        intro hexpired
        obtain ⟨name, -, hplace⟩ := hinside _ hexpired
        simp [Disk.childName?_eq_some_iff.2 hplace] at hchild

theorem cutoff?_eq (now days : Int) :
    cutoff? now days =
      if 0 < days ∧ InCalendar (now - days * dayNanos) then some (.ofNanos (now - days * dayNanos))
      else none := by
  rw [cutoff?, Moment.daysBefore?_ofNanos]
  by_cases hdays : 0 < days
  · simp [hdays, Int.not_le.2 hdays]
  · simp [hdays, Int.not_lt.1 hdays]

end Retention

namespace Store

open Moment (InCalendar dayNanos)

variable {s : Store} {refused : Path → Bool} {d : Disk} {now : Int} {folder : String} {place : Place}

/-- A record that is due for removal: there is a time to keep records, the calendar reaches back that far,
and the record is from before. -/
def IsDue (s : Store) (refused : Path → Bool) (d : Disk) (now : Int) (folder : String) (place : Place) :
    Prop :=
  (0 < s.retentionDays ∧ InCalendar (now - s.retentionDays * dayNanos)) ∧
    Retention.IsExpired refused d (now - s.retentionDays * dayNanos) (s.directory folder) place

theorem onlyFiles_isDue : d.OnlyFiles (s.IsDue refused d now folder) :=
  fun place h => Retention.onlyFiles_isExpired place h.2

theorem place_of_isDue (hfolder : Path.IsName folder) (h : s.IsDue refused d now folder place) :
    ∃ q name, d.base s.root = .ok q ∧ place = q ++ [folder, name] := by
  obtain ⟨-, above, name, f, hdir, hplace, -⟩ := h
  obtain ⟨q, hq, -, rfl⟩ := Disk.place_of_find_join hfolder hdir
  exact ⟨q, name, hq, by simpa using hplace⟩

def IsGone (s : Store) (refused : Path → Bool) (d : Disk) (now : Int) (place : Place) : Prop :=
  s.IsDue refused d now "sessions" place ∨ s.IsDue refused d now "tests" place

theorem onlyFiles_isGone : d.OnlyFiles (s.IsGone refused d now) := onlyFiles_isDue.or onlyFiles_isDue

theorem isName_sessions : Path.IsName "sessions" := Family.isName_directory .sessions

theorem isName_tests : Path.IsName "tests" := Family.isName_directory .tests

theorem not_isDue_sessions (h : s.IsDue refused d now "tests" place) :
    ¬ s.IsDue refused d now "sessions" place := by
  intro h'
  obtain ⟨q, name, hq, hplace⟩ := place_of_isDue isName_tests h
  obtain ⟨q', name', hq', hplace'⟩ := place_of_isDue isName_sessions h'
  cases hq.symm.trans hq'
  simp [hplace] at hplace'

theorem purgeUnless_eq (hs : s.enabled) (hd : d.IsTree) :
    s.purgeUnless refused d now =
      (d.without (s.IsGone refused d now),
        ⟨d.count (s.IsDue refused d now "sessions"), d.count (s.IsDue refused d now "tests")⟩) := by
  rw [purgeUnless, if_pos hs, Retention.enforceUnless, Retention.cutoff?_eq]
  by_cases hdue : 0 < s.retentionDays ∧ InCalendar (now - s.retentionDays * dayNanos)
  · have hisDue : ∀ folder, s.IsDue refused d now folder =
        Retention.IsExpired refused d (now - s.retentionDays * dayNanos) (s.directory folder) :=
      fun folder => funext fun place => propext (and_iff_right hdue)
    have hsessions : d.OnlyFiles (s.IsDue refused d now "sessions") := onlyFiles_isDue
    have htests : Retention.IsExpired refused (d.without (s.IsDue refused d now "sessions"))
        (now - s.retentionDays * dayNanos) (s.directory "tests") = s.IsDue refused d now "tests" := by
      funext place
      rw [Retention.isExpired_without hd hsessions, hisDue "tests", eq_iff_iff, and_iff_left_iff_imp]
      exact fun h => not_isDue_sessions (hisDue "tests" ▸ h)
    simp only [if_pos hdue, Retention.removeExpired_eq hd, ← hisDue "sessions",
      Retention.removeExpired_eq (hd.without hsessions), htests, Disk.without_without,
      Disk.count_without fun _ => not_isDue_sessions]
    rfl
  · have hnone : ∀ folder place, ¬ s.IsDue refused d now folder place := fun folder place h => hdue h.1
    rw [if_neg hdue, Disk.without_of_forall_not, Disk.count_eq_zero (hnone _), Disk.count_eq_zero (hnone _)]
    · rfl
    · exact fun place h => h.elim (hnone _ _) (hnone _ _)

end Store

end TestTwins
