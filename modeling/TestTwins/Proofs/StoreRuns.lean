import TestTwins.Proofs.DiskLaws
import TestTwins.Store

namespace TestTwins

theorem toList_sanitize_ne_slash {key : String} : '/' ∉ (sanitize key).toList := by
  rw [sanitize, String.toList_ofList, List.mem_map]
  rintro ⟨c, -, hc⟩
  split at hc
  · exact absurd hc (by decide)
  · rename_i hreserved
    subst hc
    exact hreserved rfl

theorem isName_sanitize (key : String) : Path.IsName (sanitize key ++ ".json") := by
  have hlong : ∀ name : String, name.length < 5 → sanitize key ++ ".json" ≠ name := by
    rintro name hname rfl
    rw [String.length_append, show ".json".length = 5 from rfl] at hname
    omega
  refine ⟨hlong _ (by decide), hlong _ (by decide), hlong _ (by decide), ?_⟩
  rw [String.toList_append, List.mem_append, not_or]
  exact ⟨toList_sanitize_ne_slash, by decide⟩

namespace Store

theorem Family.isName_directory (f : Family) : Path.IsName f.directory := by
  cases f <;> exact ⟨by decide, by decide, by decide, by decide⟩

theorem Family.directory_inj {f g : Family} (h : f.directory = g.directory) : f = g := by
  cases f <;> cases g <;> first | rfl | exact absurd h (by decide)

theorem Family.directory_ne_signatures (f : Family) : f.directory ≠ "signatures" := by
  cases f <;> decide

theorem isName_signatures : Path.IsName "signatures" := ⟨by decide, by decide, by decide, by decide⟩

theorem isName_signaturesFile : Path.IsName "signatures.json" :=
  ⟨by decide, by decide, by decide, by decide⟩

theorem write_of_writeJson {d d' : Disk} {now : Int} {p : Path} {j : Json}
    (h : writeJson d now p j = .ok d') : d.write now p (some j.pretty) = .ok d' := by
  rw [writeJson] at h
  cases hwrite : d.write now p (some j.pretty) with
  | error e => rw [hwrite] at h; cases h
  | ok d'' => rw [hwrite] at h; cases h; rfl

theorem writeJson_again {d d' : Disk} {now : Int} {p : Path} {j : Json}
    (h : writeJson d now p j = .ok d') (later : Int) (j' : Json) :
    ∃ d'', writeJson d' later p j' = .ok d'' := by
  obtain ⟨d'', hwrite⟩ := Disk.write_again (write_of_writeJson h) later (some j'.pretty)
  refine ⟨d'', ?_⟩
  rw [writeJson, hwrite]
  rfl

section

variable {s : Store} {d d' : Disk} {now : Int} {j : Json} {f : Family} {key : String}

theorem readText_writeRecord (h : writeJson d now (s.recordPath f key) j = .ok d') (g : Family)
    (k : String) : d'.readText (s.recordPath g k) =
      if f = g ∧ sanitize key = sanitize k then .ok j.pretty else d.readText (s.recordPath g k) := by
  have hwrite := write_of_writeJson h
  split
  · rename_i hsame
    obtain ⟨rfl, hkey⟩ := hsame
    rw [recordPath, ← hkey]
    exact Disk.readText_write f.isName_directory (isName_sanitize key) hwrite
  · rename_i hother
    apply Disk.readText_write_of_ne f.isName_directory (isName_sanitize key) g.isName_directory
      (isName_sanitize k) _ hwrite
    intro heq
    simp only [List.cons.injEq, String.append_left_inj, and_true] at heq
    exact hother ⟨Family.directory_inj heq.1.symm, heq.2.symm⟩

theorem readText_signatures_writeRecord (h : writeJson d now (s.recordPath f key) j = .ok d') :
    d'.readText s.signaturesPath = d.readText s.signaturesPath := by
  apply Disk.readText_write_of_ne f.isName_directory (isName_sanitize key) isName_signatures
    isName_signaturesFile _ (write_of_writeJson h)
  intro heq
  exact f.directory_ne_signatures (List.cons.inj heq).1.symm

theorem readText_writeSignatures (h : writeJson d now s.signaturesPath j = .ok d') (g : Family)
    (k : String) : d'.readText (s.recordPath g k) = d.readText (s.recordPath g k) := by
  apply Disk.readText_write_of_ne isName_signatures isName_signaturesFile g.isName_directory
    (isName_sanitize k) _ (write_of_writeJson h)
  intro heq
  exact g.directory_ne_signatures (List.cons.inj heq).1

theorem readText_signatures_writeSignatures (h : writeJson d now s.signaturesPath j = .ok d') :
    d'.readText s.signaturesPath = .ok j.pretty :=
  Disk.readText_write isName_signatures isName_signaturesFile (write_of_writeJson h)

end

inductive Call
  | session (r : SessionRecord)
  | test (r : TestRecord)
  | file (r : FileRecord)
  | signature (r : SignatureRecord)

namespace Call

def apply (s : Store) (d : Disk) (now : Int) : Call → Except StorageError Disk
  | session r => s.storeSession d now r
  | test r => s.storeTest d now r
  | file r => s.storeFile d now r
  | signature r => s.storeSignature d now r

def record? : Call → Option (Family × String × Json)
  | session r => some (.sessions, r.id, r.toJson)
  | test r => some (.tests, r.test, r.toJson)
  | file r => some (.files, r.file, r.toJson)
  | signature _ => none

def writes? (f : Family) (key : String) (c : Call) : Option Json :=
  (c.record?.filter fun r => r.1 = f ∧ sanitize r.2.1 = sanitize key).map (·.2.2)

section

variable {s : Store} {d d' : Disk} {now : Int}

theorem apply_ok (hs : s.enabled) {c : Call} (h : c.apply s d now = .ok d') :
    (∃ f key j, c.record? = some (f, key, j) ∧ writeJson d now (s.recordPath f key) j = .ok d') ∨
      ∃ r known, c = .signature r ∧
        readJson d s.signaturesPath SignatureRecord.listOfJson? = .ok known ∧
        writeJson d now s.signaturesPath (SignatureRecord.listToJson (known.getD [] ++ [r])) =
          .ok d' := by
  cases c with
  | session r =>
    rw [apply, storeSession, if_pos hs] at h
    exact .inl ⟨_, _, _, rfl, h⟩
  | test r =>
    rw [apply, storeTest, if_pos hs] at h
    exact .inl ⟨_, _, _, rfl, h⟩
  | file r =>
    rw [apply, storeFile, if_pos hs] at h
    exact .inl ⟨_, _, _, rfl, h⟩
  | signature r =>
    rw [apply, storeSignature, if_pos hs] at h
    obtain ⟨known, hknown, hwrite⟩ := exists_of_bind_ok h
    exact .inr ⟨r, known, rfl, hknown, hwrite⟩

theorem readText_apply (hs : s.enabled) {c : Call} (h : c.apply s d now = .ok d') (f : Family)
    (key : String) : d'.readText (s.recordPath f key) =
      ((c.writes? f key).map fun j => .ok j.pretty).getD (d.readText (s.recordPath f key)) := by
  obtain ⟨g, k, j, hc, hwrite⟩ | ⟨r, known, rfl, -, hwrite⟩ := apply_ok hs h
  · simp only [readText_writeRecord hwrite, writes?, hc, Option.filter_some, decide_eq_true_eq]
    split <;> rfl
  · rw [readText_writeSignatures hwrite]
    rfl

end

end Call

def run (s : Store) (d : Disk) (calls : List (Int × Call)) : Except StorageError Disk :=
  calls.foldlM (fun d c => c.2.apply s d c.1) d

theorem run_cons {s : Store} {d d' : Disk} {c : Int × Call} {calls : List (Int × Call)}
    (h : s.run d (c :: calls) = .ok d') :
    ∃ d₁, c.2.apply s d c.1 = .ok d₁ ∧ s.run d₁ calls = .ok d' := by
  rw [run, List.foldlM_cons] at h
  exact exists_of_bind_ok h

def lastWritten (f : Family) (key : String) (calls : List (Int × Call)) : Option Json :=
  (calls.filterMap fun c => c.2.writes? f key).getLast?

theorem readText_run {s : Store} (hs : s.enabled) {d d' : Disk} {calls : List (Int × Call)}
    (h : s.run d calls = .ok d') (f : Family) (key : String) :
    d'.readText (s.recordPath f key) =
      ((lastWritten f key calls).map fun j => .ok j.pretty).getD (d.readText (s.recordPath f key)) := by
  induction calls generalizing d with
  | nil =>
    cases h
    rfl
  | cons c calls ih =>
    obtain ⟨d₁, hc, hcalls⟩ := run_cons h
    rw [ih hcalls, Call.readText_apply hs hc, lastWritten, lastWritten, List.filterMap_cons]
    cases c.2.writes? f key with
    | none => simp
    | some j =>
      rw [List.getLast?_cons]
      cases (calls.filterMap fun c => c.2.writes? f key).getLast? <;> simp

theorem load_eq {s : Store} (hs : s.enabled) (d : Disk) (p : Path) (decode : Json → Option α) :
    s.load d p decode =
      match d.readText p with
      | .ok text => (Json.parse? text).bind decode
      | .error _ => none := by
  rw [load, if_pos hs, readJson]
  cases d.readText p with
  | error e => cases e <;> rfl
  | ok text =>
    simp only
    cases (Json.parse? text).bind decode <;> rfl

theorem load_congr {s : Store} (hs : s.enabled) {d d' : Disk} {p : Path}
    (h : d'.readText p = d.readText p) (decode : Json → Option α) :
    s.load d' p decode = s.load d p decode := by
  rw [load_eq hs, load_eq hs, h]

theorem load_run {s : Store} (hs : s.enabled) {d d' : Disk} {calls : List (Int × Call)}
    (h : s.run d calls = .ok d') (f : Family) (key : String) (decode : Json → Option α) :
    s.load d' (s.recordPath f key) decode =
      match lastWritten f key calls with
      | some j => (Json.parse? j.pretty).bind decode
      | none => s.load d (s.recordPath f key) decode := by
  rw [load_eq hs, load_eq hs, readText_run hs h]
  cases lastWritten f key calls <;> simp

theorem load_of_not_isFile {s : Store} (hs : s.enabled) {d : Disk} {p : Path} (h : d.isFile p = false)
    (decode : Json → Option α) : s.load d p decode = none := by
  rw [load_eq hs]
  cases htext : d.readText p with
  | error e => rfl
  | ok text => exact absurd (Disk.isFile_of_readText htext) (by simp [h])

/-- A store in whose folders there are no records yet. -/
def Fresh (s : Store) (d : Disk) : Prop := ∀ f key, d.isFile (s.recordPath f key) = false

theorem fresh_of_directories (s : Store) {d : Disk} (h : ∀ e ∈ d.entries, e.2 = .directory) :
    s.Fresh d :=
  fun _ _ => Disk.isFile_of_directories h _

end Store

end TestTwins
