import Mathlib
import TestTwins.Proofs.MomentLaws
import TestTwins.Proofs.SessionListing

namespace TestTwins

section Sorting

variable {α : Type} {le : α → α → Bool} {l l' : List α} (htrans : ∀ a b c, le a b → le b c → le a c)
  (htotal : ∀ a b, le a b || le b a) (hanti : ∀ a ∈ l, ∀ b ∈ l, le a b → le b a → a = b)
include htrans htotal hanti

theorem mergeSort_eq_of_perm (h : l'.Perm l) : l'.mergeSort le = l.mergeSort le := by
  have hperm : (l'.mergeSort le).Perm (l.mergeSort le) :=
    (List.mergeSort_perm l' le).trans (h.trans (List.mergeSort_perm l le).symm)
  refine hperm.eq_of_pairwise ?_ (List.pairwise_mergeSort htrans htotal l')
    (List.pairwise_mergeSort htrans htotal l)
  intro a b ha hb
  exact hanti a (h.mem_iff.1 (List.mem_mergeSort.1 ha)) b (List.mem_mergeSort.1 hb)

theorem pairwise_mergeSort_strict (hnodup : l.Nodup) : (l.mergeSort le).Pairwise fun a b => ¬ le b a := by
  have hdistinct : (l.mergeSort le).Nodup := (List.mergeSort_perm l le).nodup_iff.2 hnodup
  refine List.Pairwise.imp_of_mem ?_ ((List.pairwise_mergeSort htrans htotal l).and hdistinct)
  rintro a b ha hb ⟨hab, hne⟩ hba
  exact hne (hanti a (List.mem_mergeSort.1 ha) b (List.mem_mergeSort.1 hb) hab hba)

end Sorting

namespace Disk

variable {d d' : Disk}

/-- The same disk, apart from the order in which it holds its entries. -/
structure Reordered (d d' : Disk) : Prop where
  here_eq : d'.here = d.here
  perm : d'.entries.Perm d.entries

namespace Reordered

theorem entry?_eq (h : Reordered d d') (hd : d.IsTree) (place : Place) : d'.entry? place = d.entry? place := by
  have hnodup : (d'.entries.map (·.1)).Nodup := (h.perm.map _).nodup_iff.2 hd.nodup
  by_cases hroot : place = []
  · subst hroot
    rfl
  · ext e
    rw [hd.entry?_iff_mem hroot, ← h.perm.mem_iff]
    exact ⟨mem_entries_of_entry_eq hroot, entry?_of_mem hnodup hroot⟩

theorem isTree (h : Reordered d d') (hd : d.IsTree) : d'.IsTree where
  nodup := (h.perm.map _).nodup_iff.2 hd.nodup
  inside entry hentry := (h.entry?_eq hd _).trans (hd.inside entry (h.perm.mem_iff.1 hentry))
  names entry hentry := hd.names entry (h.perm.mem_iff.1 hentry)

theorem sameDirectories (h : Reordered d d') (hd : d.IsTree) : SameDirectories d d' :=
  ⟨h.here_eq, fun q => by rw [h.entry?_eq hd]⟩

end Reordered

end Disk

namespace SessionRecord

def oldestFirst (a b : SessionRecord) : Bool := a.timestamp.le b.timestamp

def newestFirst (a b : SessionRecord) : Bool := oldestFirst b a

theorem oldestFirst_trans (a b c : SessionRecord) (hab : oldestFirst a b) (hbc : oldestFirst b c) :
    oldestFirst a c :=
  Moment.le_trans hab hbc

theorem oldestFirst_total (a b : SessionRecord) : oldestFirst a b || oldestFirst b a := by
  simpa [oldestFirst] using Moment.le_total a.timestamp b.timestamp

theorem newestFirst_trans (a b c : SessionRecord) (hab : newestFirst a b) (hbc : newestFirst b c) :
    newestFirst a c :=
  oldestFirst_trans c b a hbc hab

theorem newestFirst_total (a b : SessionRecord) : newestFirst a b || newestFirst b a :=
  oldestFirst_total b a

theorem oldestFirst_antisymm {all : List SessionRecord} (hdistinct : (all.map (·.timestamp)).Nodup) :
    ∀ a ∈ all, ∀ b ∈ all, oldestFirst a b → oldestFirst b a → a = b := by
  intro a ha b hb hab hba
  exact List.inj_on_of_nodup_map hdistinct ha hb (Moment.le_antisymm hab hba)

theorem newestFirst_antisymm {all : List SessionRecord} (hdistinct : (all.map (·.timestamp)).Nodup) :
    ∀ a ∈ all, ∀ b ∈ all, newestFirst a b → newestFirst b a → a = b := by
  intro a ha b hb hab hba
  exact oldestFirst_antisymm hdistinct a ha b hb hba hab

structure IsNewest (all : List SessionRecord) (limit : Nat) (newest : List SessionRecord) : Prop where
  length_eq : newest.length = min limit all.length
  descending : newest.Pairwise fun a b => b.timestamp.Before a.timestamp
  rest : ∃ older, all.Perm (newest ++ older) ∧
    ∀ a ∈ newest, ∀ b ∈ older, b.timestamp.Before a.timestamp

variable {all : List SessionRecord}

theorem isNewest_take (hdistinct : (all.map (·.timestamp)).Nodup) (limit : Nat) :
    IsNewest all limit ((all.mergeSort newestFirst).take limit) := by
  have hsorted := pairwise_mergeSort_strict newestFirst_trans newestFirst_total
    (newestFirst_antisymm hdistinct) hdistinct.of_map
  have hsplit := List.take_append_drop limit (all.mergeSort newestFirst)
  rw [← hsplit, List.pairwise_append] at hsorted
  obtain ⟨htaken, -, hrest⟩ := hsorted
  refine ⟨?_, htaken, (all.mergeSort newestFirst).drop limit, ?_, hrest⟩
  · rw [List.length_take, List.length_mergeSort]
  · rw [hsplit]
    exact (List.mergeSort_perm all _).symm

end SessionRecord

namespace Trends

variable {t : Trends} {days : Int} {window : List SessionRecord}

structure IsOver (t : Trends) (days : Int) (window : List SessionRecord) (oldest newest : SessionRecord) :
    Prop where
  oldest_mem : oldest ∈ window
  newest_mem : newest ∈ window
  between : ∀ r ∈ window, oldest.timestamp.le r.timestamp ∧ r.timestamp.le newest.timestamp
  days_eq : t.days = days
  sessionCount : t.sessionCount = window.length
  averageScore : t.averageScore = FileRecord.mean (window.map (·.averageScore))
  totalViolations : t.totalViolations = (window.map (·.violationsFound)).sum
  score : t.score = .improving ↔ 1 < window.length ∧ oldest.averageScore < newest.averageScore
  violations : t.violations = .improving ↔ newest.violationsFound < oldest.violationsFound

theorem of_eq_improving {better : Bool} : Trend.of better = .improving ↔ better := by
  cases better <;> simp [Trend.of]

theorem ofSessions_eq_none_iff : ofSessions days window = none ↔ window = [] := by
  cases window with
  | nil => simp [ofSessions]
  | cons first rest => simp [ofSessions, List.getLast?_cons]

theorem isOver_ofSessions (hsorted : window.Pairwise fun a b => a.timestamp.Before b.timestamp)
    (h : ofSessions days window = some t) : ∃ oldest newest, t.IsOver days window oldest newest := by
  rw [ofSessions] at h
  split at h
  · rename_i oldest newest holdest hnewest
    obtain ⟨rest, hrest⟩ := List.head?_eq_some_iff.1 holdest
    obtain ⟨front, hfront⟩ := List.getLast?_eq_some_iff.1 hnewest
    have hbefore : ∀ r ∈ window, oldest.timestamp.le r.timestamp := by
      rw [hrest, List.pairwise_cons] at hsorted
      rw [hrest, List.forall_mem_cons]
      exact ⟨(Moment.le_total _ _).elim id id, fun r hr => (hsorted.1 r hr).le⟩
    have hafter : ∀ r ∈ window, r.timestamp.le newest.timestamp := by
      rw [hfront, List.pairwise_append] at hsorted
      intro r hr
      rw [hfront, List.mem_append, List.mem_singleton] at hr
      rcases hr with hr | rfl
      · exact (hsorted.2.2 r hr newest (List.mem_singleton_self newest)).le
      · exact (Moment.le_total _ _).elim id id
    cases h
    refine ⟨oldest, newest, List.mem_of_mem_head? holdest, List.mem_of_getLast? hnewest,
      fun r hr => ⟨hbefore r hr, hafter r hr⟩, rfl, rfl, rfl, rfl, ?_, ?_⟩
    · simp [of_eq_improving]
    · simp only [of_eq_improving, Bool.and_eq_true, decide_eq_true_eq, and_iff_right_iff_imp]
      -- A single session is both the oldest and the newest, and has as many violations as itself.
      intro hfewer
      rw [hrest] at hnewest ⊢
      cases rest with
      | nil =>
        obtain rfl : oldest = newest := by simpa using hnewest
        exact absurd hfewer (Nat.lt_irrefl _)
      | cons second rest => simp
  · cases h

end Trends

namespace Store

open Moment (InCalendar dayNanos)
open SessionRecord (IsNewest newestFirst oldestFirst)

variable {s : Store} {d d' : Disk} {now days : Int}

theorem sessions_perm (hd : d.IsTree) (h : Disk.Reordered d d') : (s.sessions d').Perm (s.sessions d) := by
  have hsame := h.sameDirectories hd
  by_cases hs : s.enabled
  · by_cases hdir : ∃ q, d.find (s.directory "sessions") = .ok (q, .directory)
    · obtain ⟨q, hdir⟩ := hdir
      rw [sessions_eq hs hd hdir, sessions_eq hs (h.isTree hd) (hsame.find_directory_iff.2 hdir)]
      exact h.perm.filterMap _
    · rw [sessions_eq_nil (not_exists.1 hdir), sessions_eq_nil]
      intro q hq
      exact hdir ⟨q, hsame.find_directory_iff.1 hq⟩
  · simp [sessions, hs]

def sessionsSince (s : Store) (d : Disk) (time : Int) : List SessionRecord :=
  (s.sessions d).filter fun r => (Moment.ofNanos time).le r.timestamp

theorem trends_eq (s : Store) (d : Disk) (now days : Int) :
    s.trends d now days =
      if InCalendar (now - days * dayNanos) then
        Trends.ofSessions days ((s.sessionsSince d (now - days * dayNanos)).mergeSort oldestFirst)
      else none := by
  rw [trends, Moment.daysBefore?_ofNanos]
  split <;> rfl

theorem trends_eq_none_iff : s.trends d now days = none ↔
    ¬ InCalendar (now - days * dayNanos) ∨ s.sessionsSince d (now - days * dayNanos) = [] := by
  rw [trends_eq]
  split
  · rename_i hcalendar
    simp [hcalendar, Trends.ofSessions_eq_none_iff, ← List.length_eq_zero_iff, List.length_mergeSort]
  · rename_i hcalendar
    simp [hcalendar]

section Distinct

variable (hdistinct : ((s.sessions d).map (·.timestamp)).Nodup)
include hdistinct

theorem nodup_sessionsSince (time : Int) : ((s.sessionsSince d time).map (·.timestamp)).Nodup :=
  hdistinct.sublist (List.filter_sublist.map _)

theorem recentSessions_of_perm (h : (s.sessions d').Perm (s.sessions d)) (limit : Nat) :
    s.recentSessions d' limit = s.recentSessions d limit :=
  congrArg (List.take limit) (mergeSort_eq_of_perm SessionRecord.newestFirst_trans
    SessionRecord.newestFirst_total (SessionRecord.newestFirst_antisymm hdistinct) h)

theorem trends_of_perm (h : (s.sessions d').Perm (s.sessions d)) (now days : Int) :
    s.trends d' now days = s.trends d now days := by
  have hsince : (s.sessionsSince d' (now - days * dayNanos)).Perm
      (s.sessionsSince d (now - days * dayNanos)) := h.filter _
  rw [trends_eq, trends_eq, mergeSort_eq_of_perm SessionRecord.oldestFirst_trans
    SessionRecord.oldestFirst_total
    (SessionRecord.oldestFirst_antisymm (nodup_sessionsSince hdistinct _)) hsince]

theorem isOver_trends {t : Trends} (ht : s.trends d now days = some t) : ∃ window oldest newest,
    window.Perm (s.sessionsSince d (now - days * dayNanos)) ∧
      window.Pairwise (fun a b => a.timestamp.Before b.timestamp) ∧ t.IsOver days window oldest newest := by
  rw [trends_eq] at ht
  split at ht
  · have hnodup := nodup_sessionsSince hdistinct (now - days * dayNanos)
    have hsorted := pairwise_mergeSort_strict SessionRecord.oldestFirst_trans
      SessionRecord.oldestFirst_total (SessionRecord.oldestFirst_antisymm hnodup) hnodup.of_map
    obtain ⟨oldest, newest, hover⟩ := Trends.isOver_ofSessions hsorted ht
    exact ⟨_, oldest, newest, List.mergeSort_perm _ _, hsorted, hover⟩
  · cases ht

end Distinct

/-- Two disks with the same entries in different orders give the same answers. The newest sessions are the
newest, in order, and the development is that over the sessions of the last days, if there are any. -/
theorem queries_of_reordered (hd : d.IsTree) (h : Disk.Reordered d d')
    (hdistinct : ((s.sessions d).map (·.timestamp)).Nodup) (limit : Nat) (now days : Int) :
    s.recentSessions d' limit = s.recentSessions d limit ∧
      IsNewest (s.sessions d) limit (s.recentSessions d limit) ∧
      s.trends d' now days = s.trends d now days ∧
      (s.trends d now days = none ↔
        ¬ InCalendar (now - days * dayNanos) ∨ s.sessionsSince d (now - days * dayNanos) = []) ∧
      ∀ t, s.trends d now days = some t → ∃ window oldest newest,
        window.Perm (s.sessionsSince d (now - days * dayNanos)) ∧
          window.Pairwise (fun a b => a.timestamp.Before b.timestamp) ∧
          t.IsOver days window oldest newest := by
  have hperm := sessions_perm (s := s) hd h
  exact ⟨recentSessions_of_perm hdistinct hperm limit, SessionRecord.isNewest_take hdistinct limit,
    trends_of_perm hdistinct hperm now days, trends_eq_none_iff, fun t => isOver_trends hdistinct⟩

def laterSession : SessionRecord := { plainSession "b" with timestamp := ⟨1, 0⟩ }

theorem faithful_laterSession : laterSession.Faithful :=
  { faithful_plainSession "b" with
    timestamp := by
      have htext : laterSession.timestamp.text = "1970-01-01T00:00:01Z" := by decide +kernel
      rw [Moment.ReadsBack, htext]
      decide +kernel }

def twoSessions : Disk :=
  let file (r : SessionRecord) : Entry := .file ⟨some r.toJson.pretty, false, 0⟩
  ⟨[(["sessions"], .directory), (["sessions", "a.json"], file (plainSession "a")),
    (["sessions", "a.txt"], file (plainSession "a")), (["sessions", "b.json"], file laterSession)], []⟩

theorem isTree_twoSessions : twoSessions.IsTree :=
  ⟨by decide +kernel, by decide +kernel, by decide +kernel⟩

theorem sessions_twoSessions :
    sessions ⟨⟨"/"⟩, 30, true⟩ twoSessions = [plainSession "a", laterSession] := by
  have hdir : twoSessions.find (directory ⟨⟨"/"⟩, 30, true⟩ "sessions") = .ok (["sessions"], .directory) := by
    decide +kernel
  have hnames : (Path.splitName "a.json").2 = some "json" ∧ (Path.splitName "a.txt").2 ≠ some "json" ∧
      (Path.splitName "b.json").2 = some "json" := by
    decide +kernel
  simp only [ne_eq, Path.splitName_eq_json_iff] at hnames
  obtain ⟨ha, hother, hb⟩ := hnames
  have hfirst : sessionAt ["sessions"] (["sessions", "a.json"], _) = _ :=
    sessionAt_pretty (q := ["sessions"]) ha (faithful_plainSession "a") false 0
  have hnone : ∀ e, sessionAt ["sessions"] (["sessions", "a.txt"], e) = none :=
    sessionAt_of_not_isRecordName (q := ["sessions"]) hother
  have hlast : sessionAt ["sessions"] (["sessions", "b.json"], _) = _ :=
    sessionAt_pretty (q := ["sessions"]) hb faithful_laterSession false 0
  rw [sessions_eq rfl isTree_twoSessions hdir, twoSessions,
    List.filterMap_cons_none (sessionAt_directory _ _), List.filterMap_cons_some hfirst,
    List.filterMap_cons_none (hnone _), List.filterMap_cons_some hlast, List.filterMap_nil]

theorem queries_of_reordered_two :
    let s : Store := ⟨⟨"/"⟩, 30, true⟩
    let reversed : Disk := ⟨twoSessions.entries.reverse, []⟩
    s.recentSessions reversed 1 = s.recentSessions twoSessions 1 ∧
      IsNewest [plainSession "a", laterSession] 1 (s.recentSessions twoSessions 1) := by
  intro s reversed
  have hsessions : s.sessions twoSessions = [plainSession "a", laterSession] := sessions_twoSessions
  have hdistinct : ((s.sessions twoSessions).map (·.timestamp)).Nodup := by
    rw [hsessions]
    decide
  have hreordered : Disk.Reordered twoSessions reversed := ⟨rfl, List.reverse_perm _⟩
  obtain ⟨hsame, hnewest, -⟩ := queries_of_reordered isTree_twoSessions hreordered hdistinct 1 0 0
  exact ⟨hsame, hsessions ▸ hnewest⟩

end Store

end TestTwins
