import TestTwins.Proofs.Folders
import TestTwins.Proofs.RecordText

namespace TestTwins

namespace Disk

variable {d d' : Disk} {now : Int} {p : Path} {place : Place} {name : String}

theorem filterMap_putAt {α : Type} {g : Place × Entry → Option α} (h : ∀ e, g (place, e) = none)
    (e : Entry) (entries : List (Place × Entry)) :
    (putAt place e entries).filterMap g = entries.filterMap g := by
  induction entries with
  | nil => simp [putAt, h]
  | cons entry entries ih =>
    obtain ⟨q, f⟩ := entry
    rw [putAt]
    split
    · rename_i hq
      simp [hq, h]
    · rw [List.filterMap_cons, List.filterMap_cons, ih]

theorem IsTree.write_inside (hd : d.IsTree) {text : Option String} (hname : Path.IsName name)
    (hp : p.isEmpty = false) (h : d.write now (p.join name) text = .ok d') :
    ∃ q f, d.find p = .ok (q, .directory) ∧ f.text = text ∧
      d' = d.setEntry (q ++ [name]) (.file f) ∧ d'.IsTree ∧ SameDirectories d d' := by
  obtain ⟨place, hplace, h⟩ := exists_of_bind_ok h
  rw [locate_join hname] at hplace
  obtain ⟨q, hq, hfollow⟩ := exists_of_bind_ok hplace
  obtain ⟨hdirectory, hfits, rfl⟩ := follow_name hname hfollow
  have hfind : d.find p = .ok (q, .directory) := by
    rw [find_eq_ok_iff, locate, hp]
    exact ⟨hq, hdirectory⟩
  split at h
  · cases h
  rename_i hfree
  split at h
  · cases h
    obtain ⟨htree, hextends⟩ := hd.setFile (.inr ⟨q, name, rfl, hdirectory, hname, hfits⟩) hfree
      ⟨text, d.isExecutableAt (q ++ [name]), now⟩
    refine ⟨q, _, hfind, rfl, rfl, htree, rfl, fun r => ⟨fun hr => ?_, hextends.directory r⟩⟩
    rw [entry?_setEntry d (by simp)] at hr
    split at hr
    · cases hr
    · exact hr
  · split at h <;> cases h

end Disk

namespace Store

variable {s : Store} {d d' : Disk} {now : Int} {q : Place} {r : SessionRecord}

def sessionAt (q : Place) (entry : Place × Entry) : Option SessionRecord :=
  match Disk.childName? q entry.1, entry.2 with
  | some name, .file f =>
    if (Path.splitName name).2 == some "json" then
      f.text.bind fun text => (Json.parse? text).bind SessionRecord.ofJson?
    else none
  | _, _ => none

theorem sessionAt_file (q : Place) (name : String) (f : File) :
    sessionAt q (q ++ [name], .file f) =
      if (Path.splitName name).2 == some "json" then
        f.text.bind fun text => (Json.parse? text).bind SessionRecord.ofJson?
      else none := by
  rw [sessionAt, Disk.childName?_eq_some_iff.2 rfl]

theorem sessionAt_directory (q place : Place) : sessionAt q (place, .directory) = none := by
  rw [sessionAt]
  cases Disk.childName? q place <;> rfl

theorem sessionAt_of_not_isRecordName {name : String} (hname : ¬ Path.IsRecordName name) (e : Entry) :
    sessionAt q (q ++ [name], e) = none := by
  cases e with
  | directory => exact sessionAt_directory q _
  | file f =>
    rw [sessionAt_file, if_neg]
    rwa [beq_iff_eq, Path.splitName_eq_json_iff]

theorem sessionAt_pretty {name : String} (hname : Path.IsRecordName name) (hr : r.Faithful)
    (executable : Bool) (time : Int) :
    sessionAt q (q ++ [name], .file ⟨some r.toJson.pretty, executable, time⟩) = some r := by
  rw [sessionAt_file, Path.splitName_eq_json_iff.2 hname, if_pos (beq_self_eq_true _), Option.bind_some,
    SessionRecord.decode_pretty hr]

theorem sessions_eq (hs : s.enabled) (hd : d.IsTree)
    (hdir : d.find (s.directory "sessions") = .ok (q, .directory)) :
    s.sessions d = d.entries.filterMap (sessionAt q) := by
  rw [sessions, if_pos hs, Disk.list_eq_ok_iff.2 ⟨q, hdir, rfl⟩]
  simp only [Disk.namesAt, ← List.filterMap_eq_filter, List.filterMap_filterMap]
  refine List.filterMap_congr fun entry hentry => ?_
  obtain ⟨place, e⟩ := entry
  cases hchild : Disk.childName? q place with
  | none => simp [sessionAt, hchild]
  | some name =>
    obtain rfl := Disk.childName?_eq_some_iff.1 hchild
    have hfind := hd.find_join hdir hentry
    cases e with
    | directory =>
      have hread : s.load d ((s.directory "sessions").join name) SessionRecord.ofJson? = none :=
        load_of_not_isFile hs (by simp [Disk.isFile, hfind]) _
      simp [hread, sessionAt_directory, Option.guard]
    | file f =>
      have hread : s.load d ((s.directory "sessions").join name) SessionRecord.ofJson? =
          f.text.bind fun text => (Json.parse? text).bind SessionRecord.ofJson? := by
        rw [load_eq hs, Disk.readText, Disk.file_eq_ok_iff.2 ⟨_, hfind⟩]
        cases htext : f.text <;> simp [bind, Except.bind, htext] <;> rfl
      rw [sessionAt_file, ← hread]
      simp only [Option.bind_some, Option.guard]
      split <;> rfl

theorem sessions_eq_nil (h : ∀ q, d.find (s.directory "sessions") ≠ .ok (q, .directory)) :
    s.sessions d = [] := by
  rw [sessions]
  split
  · split
    · rfl
    · rename_i names hlist
      obtain ⟨q, hq, -⟩ := Disk.list_eq_ok_iff.1 hlist
      exact absurd hq (h q)
  · rfl

def sessionFileCount (s : Store) (d : Disk) : Nat :=
  match d.list (s.directory "sessions") with
  | .ok names => names.countP fun name => d.isFile ((s.directory "sessions").join name)
  | .error _ => 0

theorem length_sessions_le (hd : d.IsTree) : (s.sessions d).length ≤ s.sessionFileCount d := by
  by_cases hs : s.enabled
  · by_cases hdir : ∃ q, d.find (s.directory "sessions") = .ok (q, .directory)
    · obtain ⟨q, hdir⟩ := hdir
      rw [sessions_eq hs hd hdir, sessionFileCount, Disk.list_eq_ok_iff.2 ⟨q, hdir, rfl⟩,
        List.length_filterMap_eq_countP]
      simp only [Disk.namesAt, List.countP_filterMap]
      refine List.countP_mono_left fun entry hentry hsome => ?_
      obtain ⟨place, e⟩ := entry
      cases e with
      | directory => simp [sessionAt_directory] at hsome
      | file f =>
        cases hchild : Disk.childName? q place with
        | none => simp [sessionAt, hchild] at hsome
        | some name =>
          obtain rfl := Disk.childName?_eq_some_iff.1 hchild
          simp [Disk.isFile, hd.find_join hdir hentry]
    · rw [sessions_eq_nil (not_exists.1 hdir)]
      exact Nat.zero_le _
  · rw [sessions, if_neg hs]
    exact Nat.zero_le _

theorem mem_recentSessions {limit : Nat} (hd : d.IsTree) (hlimit : s.sessionFileCount d ≤ limit) :
    r ∈ s.recentSessions d limit ↔ r ∈ s.sessions d := by
  rw [recentSessions, List.take_of_length_le, List.mem_mergeSort]
  rw [List.length_mergeSort]
  exact (length_sessions_le hd).trans hlimit

theorem isRecordName_sanitize {key : String} :
    Path.IsRecordName (sanitize key ++ ".json") ↔ key ≠ "" := by
  have hempty : sanitize key = "" ↔ key = "" := by
    simp [sanitize, maxFileNameLength]
  rw [← not_iff_not, not_not, ← hempty]
  constructor
  · intro h
    by_contra hne
    exact h ⟨_, hne, rfl⟩
  · rintro hkey ⟨stem, hstem, hname⟩
    exact hstem ((String.append_left_inj _).1 hname ▸ hkey)

section Stored

variable (hs : s.enabled) (h : s.storeSession d now r = .ok d')
include hs h

theorem loadSession_stored :
    s.loadSession d' r.id = (Json.parse? r.toJson.pretty).bind SessionRecord.ofJson? := by
  rw [storeSession, if_pos hs] at h
  rw [loadSession, load_eq hs, readText_writeRecord h, if_pos ⟨rfl, rfl⟩]

theorem storeSession_entry (hd : d.IsTree) :
    ∃ q f, d.find (s.directory "sessions") = .ok (q, .directory) ∧ f.text = some r.toJson.pretty ∧
      d' = d.setEntry (q ++ [sanitize r.id ++ ".json"]) (.file f) ∧ d'.IsTree ∧
      Disk.SameDirectories d d' := by
  rw [storeSession, if_pos hs] at h
  have hfolder := Path.isEmpty_join (Family.isName_directory .sessions) s.root
  exact hd.write_inside (isName_sanitize r.id) hfolder (write_of_writeJson h)

theorem mem_sessions_stored (hd : d.IsTree) (hid : r.id ≠ "") {r' : SessionRecord}
    (hr' : s.loadSession d' r.id = some r') : r' ∈ s.sessions d' := by
  obtain ⟨q, f, hdir, htext, hd', htree, hsame⟩ := storeSession_entry hs h hd
  have hentry : d'.entry? (q ++ [sanitize r.id ++ ".json"]) = some (.file f) := by
    rw [hd', Disk.entry?_setEntry d (by simp), if_pos rfl]
  have hname := Path.splitName_eq_json_iff.2 (isRecordName_sanitize.2 hid)
  rw [sessions_eq hs htree (hsame.find_directory_iff.2 hdir)]
  refine List.mem_filterMap.2 ⟨_, Disk.mem_entries_of_entry_eq (by simp) hentry, ?_⟩
  rw [sessionAt_file, hname, htext, if_pos (beq_self_eq_true _), ← hr', loadSession_stored hs h,
    Option.bind_some]

theorem sessions_stored_emptyKey (hd : d.IsTree) (hid : r.id = "") : s.sessions d' = s.sessions d := by
  obtain ⟨q, f, hdir, -, hd', htree, hsame⟩ := storeSession_entry hs h hd
  have hname : ¬ Path.IsRecordName (sanitize r.id ++ ".json") := by
    rw [isRecordName_sanitize, hid]
    exact not_not_intro rfl
  rw [sessions_eq hs htree (hsame.find_directory_iff.2 hdir), sessions_eq hs hd hdir, hd']
  exact Disk.filterMap_putAt (sessionAt_of_not_isRecordName hname) _ _

end Stored

/-- A session that is stored can be loaded as it was, as far as its text goes. Under a key that is not empty,
whatever is loaded for it is also listed, once all files of the folder have their turn. Under the empty key
no listing is different for it. -/
theorem storeSession_listed (hs : s.enabled) (hd : d.IsTree) (h : s.storeSession d now r = .ok d') :
    (r.Faithful → s.loadSession d' r.id = some r) ∧
      (r.id ≠ "" → ∀ r', s.loadSession d' r.id = some r' →
        ∀ limit, s.sessionFileCount d' ≤ limit → r' ∈ s.recentSessions d' limit) ∧
      (r.id = "" → ∀ limit, s.recentSessions d' limit = s.recentSessions d limit) := by
  refine ⟨?_, ?_, ?_⟩
  · intro hr
    exact (loadSession_stored hs h).trans (SessionRecord.decode_pretty hr)
  · intro hid r' hr' limit hlimit
    obtain ⟨q, f, -, -, -, htree, -⟩ := storeSession_entry hs h hd
    exact (mem_recentSessions htree hlimit).2 (mem_sessions_stored hs h hd hid hr')
  · intro hid limit
    rw [recentSessions, recentSessions, sessions_stored_emptyKey hs h hd hid]

def sessionsFolder : Disk := ⟨[(["store"], .directory), (["store", "sessions"], .directory)], []⟩

theorem isTree_sessionsFolder : sessionsFolder.IsTree :=
  ⟨by decide +kernel, by decide +kernel, by decide +kernel⟩

def plainSession (id : String) : SessionRecord := ⟨id, .epoch, 0, 0.5, 0, 0, "", .null⟩

theorem faithful_plainSession (id : String) : (plainSession id).Faithful := by
  have hcount : 0 < Word.count := by decide
  exact ⟨Moment.readsBack_epoch, hcount, Json.readsBack_half, hcount, hcount, rfl, .null⟩

theorem storeSession_listed_dotted :
    let s : Store := ⟨⟨"store"⟩, 30, true⟩
    ∃ d', s.storeSession sessionsFolder 1 (plainSession "..") = .ok d' ∧
      plainSession ".." ∈ s.recentSessions d' (s.sessionFileCount d') := by
  intro s
  obtain ⟨d', hd'⟩ : ∃ d', s.storeSession sessionsFolder 1 (plainSession "..") = .ok d' :=
    exists_of_isOk (by decide +kernel)
  obtain ⟨hload, hlisted, -⟩ := storeSession_listed (s := s) rfl isTree_sessionsFolder hd'
  exact ⟨d', hd', hlisted (by decide) _ (hload (faithful_plainSession "..")) _ (Nat.le_refl _)⟩

/-- A session with an empty key can be loaded, and no listing has it. -/
theorem storeSession_emptyKey_unlisted :
    let s : Store := ⟨⟨"store"⟩, 30, true⟩
    ∃ d', s.storeSession sessionsFolder 1 (plainSession "") = .ok d' ∧
      s.loadSession d' "" = some (plainSession "") ∧ ∀ limit, s.recentSessions d' limit = [] := by
  intro s
  obtain ⟨d', hd'⟩ : ∃ d', s.storeSession sessionsFolder 1 (plainSession "") = .ok d' :=
    exists_of_isOk (by decide +kernel)
  have hnone : s.sessions sessionsFolder = [] := List.eq_nil_of_length_eq_zero (by decide +kernel)
  refine ⟨d', hd', ?_, fun limit => ?_⟩
  · have hload := loadSession_stored (s := s) rfl hd'
    exact hload.trans (SessionRecord.decode_pretty (faithful_plainSession ""))
  · rw [recentSessions, sessions_stored_emptyKey (s := s) rfl hd' isTree_sessionsFolder rfl, hnone]
    simp

end Store

end TestTwins
