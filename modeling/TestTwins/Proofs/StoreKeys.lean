import TestTwins.Proofs.StoreMaps

namespace TestTwins

theorem sanitize_eq_self {key : String} (hlength : key.length ≤ maxFileNameLength)
    (hreserved : ∀ c ∈ key.toList, c ∉ reservedCharacters) : sanitize key = key := by
  have htake : key.toList.take maxFileNameLength = key.toList :=
    List.take_of_length_le (by rwa [String.length_toList])
  have hmap : (key.toList.map fun c => if reservedCharacters.contains c then '_' else c) =
      key.toList := by
    rw [List.map_congr_left fun c hc => if_neg (by simpa using hreserved c hc), List.map_id']
  rw [sanitize, htake, hmap, String.ofList_toList]

namespace Store

section

variable {s : Store} {d d' : Disk} {calls : List (Int × Call)} {f : Family}
  {record? : Call → Option α} {key : α → String} {toJson : α → Json} {decode : Json → Option α}

theorem sanitize_key_of_load (hs : s.enabled) (hfresh : s.Fresh d) (hrun : s.run d calls = .ok d')
    (hstores : Stores f record? key toJson)
    (hkey : ∀ r r', (Json.parse? (toJson r).pretty).bind decode = some r' → key r' = key r)
    {k : String} {r : α} (h : s.load d' (s.recordPath f k) decode = some r) :
    sanitize (key r) = sanitize k := by
  rw [load_run hs hrun, hstores.lastWritten_eq] at h
  cases hlast : lastUnder record? key calls k with
  | none =>
    rw [hlast, Option.map_none, load_of_not_isFile hs (hfresh f k)] at h
    cases h
  | some stored =>
    rw [hlast] at h
    rw [hkey stored r h]
    exact (mem_of_lastUnder hlast).1

end

structure Keyed (s : Store) (d : Disk) : Prop where
  sessions : ∀ id r, s.loadSession d id = some r → sanitize r.id = sanitize id
  tests : ∀ test r, s.loadTest d test = some r → sanitize r.test = sanitize test
  files : ∀ file r, s.loadFile d file = some r → sanitize r.file = sanitize file.text

/-- After any run a key leads to records with its file name only, and storing the record of a source file
leaves those with other file names as they are. Short keys without reserved characters are told apart. -/
theorem run_keyed {s : Store} (hs : s.enabled) {d d' : Disk} {calls : List (Int × Call)}
    (hfresh : s.Fresh d) (hrun : s.run d calls = .ok d') :
    s.Keyed d' ∧
      (∀ r now d₁ d₂ file, s.storeFile d₁ now r = .ok d₂ → sanitize r.file ≠ sanitize file.text →
        s.loadFile d₂ file = s.loadFile d₁ file) ∧
      ∀ key : String, key.length ≤ maxFileNameLength → (∀ c ∈ key.toList, c ∉ reservedCharacters) →
        sanitize key = key := by
  refine ⟨⟨?_, ?_, ?_⟩, ?_, fun key => sanitize_eq_self⟩
  · intro id r
    exact sanitize_key_of_load hs hfresh hrun stores_sessions
      fun _ _ => SessionRecord.id_of_decode_pretty
  · intro test r
    exact sanitize_key_of_load hs hfresh hrun stores_tests
      fun _ _ => TestRecord.test_of_decode_pretty
  · intro file r
    exact sanitize_key_of_load hs hfresh hrun stores_files
      fun _ _ => FileRecord.file_of_decode_pretty
  · intro r now d₁ d₂ file hstore hother
    apply load_congr hs
    rw [storeFile, if_pos hs] at hstore
    rw [readText_writeRecord hstore, if_neg]
    exact fun hsame => hother hsame.2

def halfCovered (file : String) : FileRecord := ⟨file, 0.5, [], [], 0.5, .epoch, "s"⟩

theorem loadFile_halfCovered {s : Store} (hs : s.enabled) {d d' : Disk} (hfresh : s.Fresh d)
    (hrun : s.run d [(1, .file (halfCovered "a/b.py")), (2, .file (halfCovered "a_b.py"))] = .ok d') :
    s.loadFile d' ⟨"a/b.py"⟩ = some (halfCovered "a_b.py") := by
  have hfaithful : ∀ file, (halfCovered file).Faithful := fun file =>
    ⟨Json.readsBack_half, nofun, Json.readsBack_half, Moment.readsBack_epoch⟩
  have hload : s.loadFile d' ⟨"a/b.py"⟩ = lastUnder Call.file? (·.file)
      [(1, .file (halfCovered "a/b.py")), (2, .file (halfCovered "a_b.py"))] "a/b.py" := by
    refine load_run_eq_lastUnder hs hfresh hrun stores_files ?_ _
    simp [Call.file?, FileRecord.decode_pretty (hfaithful _)]
  have hsame : sanitize "a_b.py" = sanitize "a/b.py" := by decide +kernel
  rw [hload]
  simp [lastUnder, Call.file?, halfCovered, hsame]

theorem run_keyed_nested :
    let s : Store := ⟨⟨"store"⟩, 30, true⟩
    let d : Disk := ⟨[(["store"], .directory), (["store", "files"], .directory)], []⟩
    ∃ d', s.run d [(1, .file (halfCovered "a/b.py")), (2, .file (halfCovered "a_b.py"))] = .ok d' ∧
      s.Keyed d' ∧ s.loadFile d' ⟨"a/b.py"⟩ = some (halfCovered "a_b.py") ∧
      sanitize "a_b.py" = sanitize "a/b.py" := by
  intro s d
  obtain ⟨d', hd'⟩ : ∃ d', s.run d [(1, .file (halfCovered "a/b.py")), (2, .file (halfCovered "a_b.py"))] =
      .ok d' := exists_of_isOk (by decide +kernel)
  have hfresh : s.Fresh d := s.fresh_of_directories (by simp [d])
  have hload := loadFile_halfCovered rfl hfresh hd'
  have hkeyed := (run_keyed (s := s) rfl hfresh hd').1
  exact ⟨d', hd', hkeyed, hload, hkeyed.files _ _ hload⟩

/-- Of two source files with one file name, the record of the second is loaded for the first. -/
theorem loadFile_of_other_file :
    let s : Store := ⟨⟨"store"⟩, 30, true⟩
    let d : Disk := ⟨[(["store"], .directory), (["store", "files"], .directory)], []⟩
    let nested : FileRecord := ⟨"a/b.py", 0.5, [], [], 0.5, .epoch, "s"⟩
    let flat : FileRecord := ⟨"a_b.py", 0.5, [], [], 0.5, .epoch, "s"⟩
    ∃ d', s.run d [(1, .file nested), (2, .file flat)] = .ok d' ∧
      s.loadFile d' ⟨"a/b.py"⟩ = some flat ∧ flat.file ≠ "a/b.py" := by
  intro s d nested flat
  obtain ⟨d', hd'⟩ : ∃ d', s.run d [(1, .file nested), (2, .file flat)] = .ok d' :=
    exists_of_isOk (by decide +kernel)
  have hfresh : s.Fresh d := s.fresh_of_directories (by simp [d])
  exact ⟨d', hd', loadFile_halfCovered rfl hfresh hd', by decide⟩

end Store

end TestTwins
