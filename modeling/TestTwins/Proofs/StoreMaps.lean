import TestTwins.Proofs.RecordText
import TestTwins.Proofs.StoreRuns

namespace TestTwins.Store

namespace Call

def session? : Call → Option SessionRecord
  | session r => some r
  | _ => none

def test? : Call → Option TestRecord
  | test r => some r
  | _ => none

def file? : Call → Option FileRecord
  | file r => some r
  | _ => none

def signature? : Call → Option SignatureRecord
  | signature r => some r
  | _ => none

theorem eq_signature {c : Call} {r : SignatureRecord} (h : c.signature? = some r) :
    c = .signature r := by
  cases c <;> cases h
  rfl

end Call

def Stores (f : Family) (record? : Call → Option α) (key : α → String) (toJson : α → Json) : Prop :=
  ∀ c k, Call.writes? f k c = ((record? c).filter fun r => sanitize (key r) = sanitize k).map toJson

theorem stores_sessions : Stores .sessions Call.session? (·.id) (·.toJson) := by
  intro c k
  cases c <;> simp [Call.writes?, Call.record?, Call.session?, Option.filter]

theorem stores_tests : Stores .tests Call.test? (·.test) (·.toJson) := by
  intro c k
  cases c <;> simp [Call.writes?, Call.record?, Call.test?, Option.filter]

theorem stores_files : Stores .files Call.file? (·.file) (·.toJson) := by
  intro c k
  cases c <;> simp [Call.writes?, Call.record?, Call.file?, Option.filter]

def lastUnder (record? : Call → Option α) (key : α → String) (calls : List (Int × Call)) (k : String) :
    Option α :=
  (calls.filterMap fun c => (record? c.2).filter fun r => sanitize (key r) = sanitize k).getLast?

theorem mem_of_lastUnder {record? : Call → Option α} {key : α → String} {calls : List (Int × Call)}
    {k : String} {r : α} (h : lastUnder record? key calls k = some r) :
    sanitize (key r) = sanitize k ∧ ∃ c ∈ calls, record? c.2 = some r := by
  obtain ⟨c, hc, hr⟩ := List.mem_filterMap.1 (List.mem_of_getLast? h)
  obtain ⟨hr, hkey⟩ := Option.filter_eq_some_iff.1 hr
  exact ⟨by simpa using hkey, c, hc, hr⟩

section

variable {record? : Call → Option α} {key : α → String} {toJson : α → Json} {f : Family}

theorem Stores.load_apply (hstores : Stores f record? key toJson) {s : Store} (hs : s.enabled)
    {d d' : Disk} {now : Int} {c : Call} (h : c.apply s d now = .ok d') (hc : record? c = none)
    (k : String) (decode : Json → Option α) :
    s.load d' (s.recordPath f k) decode = s.load d (s.recordPath f k) decode := by
  apply load_congr hs
  rw [Call.readText_apply hs h, hstores c k, hc]
  rfl

theorem Stores.lastWritten_eq (h : Stores f record? key toJson) (calls : List (Int × Call))
    (k : String) : lastWritten f k calls = (lastUnder record? key calls k).map toJson := by
  simp only [lastWritten, lastUnder, h _ k, ← List.map_filterMap, List.getLast?_map]

theorem load_run_eq_lastUnder {s : Store} (hs : s.enabled) {d d' : Disk} {calls : List (Int × Call)}
    (hfresh : s.Fresh d) (hrun : s.run d calls = .ok d') {decode : Json → Option α}
    (hstores : Stores f record? key toJson) (hdecode : ∀ c ∈ calls, ∀ r, record? c.2 = some r →
      (Json.parse? (toJson r).pretty).bind decode = some r) (k : String) :
    s.load d' (s.recordPath f k) decode = lastUnder record? key calls k := by
  rw [load_run hs hrun, hstores.lastWritten_eq]
  cases hlast : lastUnder record? key calls k with
  | none => exact load_of_not_isFile hs (hfresh f k) decode
  | some r =>
    obtain ⟨-, c, hc, hr⟩ := mem_of_lastUnder hlast
    exact hdecode c hc r hr

end

def Call.Faithful : Call → Prop
  | session r => r.Faithful
  | test r => r.Faithful
  | file r => r.Faithful
  | signature _ => True

structure Call.KeepsOthers (c : Call) (s : Store) (d d' : Disk) : Prop where
  sessions : c.session? = none → ∀ id, s.loadSession d' id = s.loadSession d id
  tests : c.test? = none → ∀ test, s.loadTest d' test = s.loadTest d test
  files : c.file? = none → ∀ file, s.loadFile d' file = s.loadFile d file
  signatures : c.signature? = none → s.signatures d' = s.signatures d

theorem Call.keepsOthers {s : Store} (hs : s.enabled) {d d' : Disk} {now : Int} {c : Call}
    (h : c.apply s d now = .ok d') : c.KeepsOthers s d d' := by
  constructor
  case sessions => exact fun hc id => stores_sessions.load_apply hs h hc id _
  case tests => exact fun hc test => stores_tests.load_apply hs h hc test _
  case files => exact fun hc file => stores_files.load_apply hs h hc file.text _
  case signatures =>
    intro hc
    obtain ⟨f, k, j, -, hwrite⟩ | ⟨r, known, rfl, -, -⟩ := apply_ok hs h
    · rw [signatures, signatures, load_congr hs (readText_signatures_writeRecord hwrite)]
    · cases hc

theorem recordPath_isChild (s : Store) (f : Family) (key : String) :
    (s.recordPath f key).IsChild (s.directory f.directory) :=
  Path.isChild_join (isName_sanitize key) _

/-- After a run that goes well each family is a map to what was stored last, a call changes no other
family than its own, and every key has its file directly in the directory of the family. -/
theorem run_refines_maps {s : Store} (hs : s.enabled) {d d' : Disk} {calls : List (Int × Call)}
    (hfresh : s.Fresh d) (hfaithful : ∀ c ∈ calls, c.2.Faithful) (hrun : s.run d calls = .ok d') :
    (∀ id, s.loadSession d' id = lastUnder Call.session? (·.id) calls id) ∧
      (∀ test, s.loadTest d' test = lastUnder Call.test? (·.test) calls test) ∧
      (∀ file, s.loadFile d' file = lastUnder Call.file? (·.file) calls file.text) ∧
      (∀ (c : Call) now d₁ d₂, c.apply s d₁ now = .ok d₂ → c.KeepsOthers s d₁ d₂) ∧
      ∀ f key, (s.recordPath f key).IsChild (s.directory f.directory) := by
  refine ⟨?_, ?_, ?_, fun c now d₁ d₂ => Call.keepsOthers hs, s.recordPath_isChild⟩
  · intro id
    refine load_run_eq_lastUnder hs hfresh hrun stores_sessions ?_ id
    rintro ⟨now, c⟩ hc r hr
    cases c <;> cases hr
    exact SessionRecord.decode_pretty (hfaithful _ hc)
  · intro test
    refine load_run_eq_lastUnder hs hfresh hrun stores_tests ?_ test
    rintro ⟨now, c⟩ hc r hr
    cases c <;> cases hr
    exact TestRecord.decode_pretty (hfaithful _ hc)
  · intro file
    refine load_run_eq_lastUnder hs hfresh hrun stores_files ?_ file.text
    rintro ⟨now, c⟩ hc r hr
    cases c <;> cases hr
    exact FileRecord.decode_pretty (hfaithful _ hc)

theorem run_refines_maps_colon :
    let s : Store := ⟨⟨"store"⟩, 30, true⟩
    let d : Disk := ⟨[(["store"], .directory), (["store", "sessions"], .directory)], []⟩
    let first : SessionRecord := ⟨"a:b", .epoch, 1, 0.5, 0, 0, "1s", .null⟩
    let last : SessionRecord := ⟨"a?b", .epoch, 2, 0.5, 0, 0, "2s", .arr [.bool true]⟩
    ∃ d', s.run d [(1, .session first), (2, .session last)] = .ok d' ∧
      s.loadSession d' "a/b" = some last ∧ s.loadSession d' ".." = none := by
  intro s d first last
  have hfirst : first.Faithful := ⟨Moment.readsBack_epoch, by decide, Json.readsBack_half, by decide,
    by decide, rfl, .null⟩
  have hlast : last.Faithful := ⟨Moment.readsBack_epoch, by decide, Json.readsBack_half, by decide,
    by decide, rfl, .arr (List.forall_mem_singleton.2 (.bool true))⟩
  obtain ⟨d', hd'⟩ : ∃ d', s.run d [(1, .session first), (2, .session last)] = .ok d' :=
    exists_of_isOk (by decide +kernel)
  have hload := (run_refines_maps (s := s) rfl (s.fresh_of_directories (by simp [d]))
    (by simp [Call.Faithful, hfirst, hlast]) hd').1
  have hsame : sanitize "a:b" = sanitize "a/b" ∧ sanitize "a?b" = sanitize "a/b" := by decide +kernel
  have hother : sanitize "a:b" ≠ sanitize ".." ∧ sanitize "a?b" ≠ sanitize ".." := by decide +kernel
  refine ⟨d', hd', ?_, ?_⟩
  · simp [hload, lastUnder, Call.session?, first, last, hsame]
  · simp [hload, lastUnder, Call.session?, first, last, hother]

end TestTwins.Store
