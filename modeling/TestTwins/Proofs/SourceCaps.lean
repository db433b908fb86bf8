import TestTwins.Proofs.SessionProtocol
import TestTwins.Proofs.SourceSelection

namespace TestTwins

namespace Sources

variable {d : Disk} {limits : Limits} {testFile : Path}

def SelectsByImports (d : Disk) (limits : Limits) (testFile : Path) : Prop :=
  ∃ source, d.readText testFile = .ok source ∧
    ImportsAny (Python.parse source) (candidates d limits testFile)

instance (d : Disk) (limits : Limits) (testFile : Path) :
    Decidable (SelectsByImports d limits testFile) :=
  match h : d.readText testFile with
  | .error _ => .isFalse fun ⟨_, hread, _⟩ => by cases h.symm.trans hread
  | .ok source =>
    decidable_of_iff (ImportsAny (Python.parse source) (candidates d limits testFile))
      ⟨fun himports => ⟨source, h, himports⟩, fun ⟨_, hread, himports⟩ => by
        cases h.symm.trans hread
        exact himports⟩

def capOf (d : Disk) (limits : Limits) (testFile : Path) : Nat :=
  if SelectsByImports d limits testFile then limits.selectedFiles else limits.candidateFiles

theorem capOf_le (d : Disk) (limits : Limits) (testFile : Path) :
    capOf d limits testFile ≤ max limits.selectedFiles limits.candidateFiles := by
  rw [capOf]
  split
  · exact Nat.le_max_left _ _
  · exact Nat.le_max_right _ _

theorem length_resolve_of_read {source : String} (hread : d.readText testFile = .ok source) :
    (resolve d limits testFile).length ≤ capOf d limits testFile := by
  have himports : SelectsByImports d limits testFile ↔
      importedFiles (Python.parse source) (candidates d limits testFile) ≠ [] := by
    rw [ne_eq, importedFiles_eq_nil_iff, not_not]
    constructor
    · rintro ⟨other, hother, himports⟩
      cases hread.symm.trans hother
      exact himports
    · exact fun himports => ⟨source, hread, himports⟩
  rw [resolve_eq hread, capOf]
  simp only [select_eq]
  by_cases hnone : importedFiles (Python.parse source) (candidates d limits testFile) = []
  · rw [if_pos hnone, if_neg fun hselects => himports.1 hselects hnone]
    exact List.length_take_le _ _
  · rw [if_neg hnone, if_pos (himports.2 hnone)]
    exact List.length_take_le _ _

theorem resolve_of_error (limits : Limits) {e : DiskError} (hread : d.readText testFile = .error e) :
    resolve d limits testFile = candidates d limits testFile ∧
      capOf d limits testFile = limits.candidateFiles := by
  refine ⟨by simp only [resolve, parseFile, hread], if_neg ?_⟩
  rintro ⟨source, hsource, -⟩
  cases hread.symm.trans hsource

theorem length_resolve_le_iff (d : Disk) (limits : Limits) (testFile : Path) :
    (resolve d limits testFile).length ≤ capOf d limits testFile ↔
      (∃ source, d.readText testFile = .ok source) ∨
        (candidates d limits testFile).length ≤ limits.candidateFiles := by
  cases hread : d.readText testFile with
  | ok source => exact ⟨fun _ => .inl ⟨source, rfl⟩, fun _ => length_resolve_of_read hread⟩
  | error e =>
    obtain ⟨hresolve, hcap⟩ := resolve_of_error limits hread
    rw [hresolve, hcap]
    simp

end Sources

namespace Collector

open Executor (Call bare)

variable {σ : Type}

theorem exists_start_of_mem (E : Executor σ) (w : Disk × σ) {call : Call σ}
    (h : call ∈ (ensureSession E.logged (w.1, w.2, [])).2.2.2) : ∃ now ok, call = .start now ok := by
  rw [ensureSession_eq] at h
  split at h
  · cases h
  · exact ⟨_, _, List.mem_singleton.1 h⟩

theorem request_of_execute {E : Executor σ} {c : Collector} {file : Path} {test : String} {line : Nat}
    {given : Option (List Path)} {w : Disk × σ} {request : Request} {world : Disk × σ} {success : Bool}
    (h : Call.execute request world success ∈
      (c.collect E.logged file test line given (w.1, w.2, [])).2.2.2) :
    request.sources = sourcesOf c.limits w.1 file given ∧ IsFound (inSession E w).1 file test := by
  have hworld : (ensureSession E.logged (w.1, w.2, [])).2.1 = (inSession E w).1 :=
    congrArg Prod.fst (congrArg Prod.snd (mirrors_ensureSession E (w.1, w.2, [])))
  have hnone : Call.execute request world success ∉ (ensureSession E.logged (w.1, w.2, [])).2.2.2 := by
    intro hcall
    obtain ⟨now, ok, hstart⟩ := exists_start_of_mem E w hcall
    cases hstart
  rw [collect_eq, measure_eq] at h
  rcases hstart : ensureSession E.logged (w.1, w.2, []) with ⟨_ | ⟨⟨⟩⟩, w₁⟩
  · simp only [hstart] at h hnone
    exact absurd h hnone
  simp only [hstart] at h hnone hworld
  cases hanalyze : c.analyze w₁.1 file test (sourcesOf c.limits w.1 file given) with
  | error e =>
    simp only [hanalyze] at h
    exact absurd h hnone
  | ok c' =>
    refine ⟨?_, hworld ▸ isFound_of_analyze hanalyze⟩
    simp only [hanalyze, Executor.logged] at h
    generalize hsent : Request.mk file test (sourcesOf c.limits w.1 file given)
      (Sources.importRoots w₁.1 file (sourcesOf c.limits w.1 file given)) = sent at h
    have hlog : ∃ ok, Call.execute request world success ∈ w₁.2.2 ++ [.execute sent (bare w₁) ok] := by
      generalize E.execute sent (bare w₁) = answer at h
      obtain ⟨_ | m, w₂⟩ := answer <;> exact ⟨_, h⟩
    obtain ⟨ok, h⟩ := hlog
    cases List.mem_singleton.1 ((List.mem_append.1 h).resolve_left hnone)
    rw [← hsent]

/-- The number of source files of a test is within its cap if and only if the test file can be read, or
there are not more candidates than that. Handed to a run is never more, if starting a session leaves
the test file as it is: a test that cannot be read is not run. -/
theorem sources_capped (E : Executor σ) (c : Collector) (w : Disk × σ) (file : Path) (test : String)
    (line : Nat) :
    let chosen := Sources.resolve w.1 c.limits file
    let cap := Sources.capOf w.1 c.limits file
    cap ≤ max c.limits.selectedFiles c.limits.candidateFiles ∧
      (chosen.length ≤ cap ↔ (∃ source, w.1.readText file = .ok source) ∨
        (Sources.candidates w.1 c.limits file).length ≤ c.limits.candidateFiles) ∧
      ((inSession E w).1.readText file = w.1.readText file → ∀ request world success,
        Call.execute request world success ∈
            (c.collect E.logged file test line none (w.1, w.2, [])).2.2.2 →
          request.sources = chosen ∧ request.sources.length ≤ cap) := by
  intro chosen cap
  refine ⟨Sources.capOf_le .., Sources.length_resolve_le_iff .., ?_⟩
  intro hsame request world success hcall
  obtain ⟨hsources, module, -, hparse, -⟩ := request_of_execute hcall
  have hread : ∃ source, w.1.readText file = .ok source := by
    rw [← hsame]
    simp only [parseFile] at hparse
    split at hparse
    · exact ⟨_, by assumption⟩
    · cases hparse
  refine ⟨hsources, ?_⟩
  rw [hsources]
  exact (Sources.length_resolve_le_iff ..).2 (.inl hread)

theorem inSession_of_hasSession {E : Executor σ} {w : Disk × σ} (h : E.hasSession w) :
    inSession E w = w := by
  rw [inSession, ensureSession_eq, if_pos h]

theorem exists_execute {E : Executor σ} {disk : Disk} {state : σ} (hsession : E.hasSession (disk, state))
    {file : Path} {test : String} (hfound : IsFound disk file test) (c : Collector) (line : Nat)
    (given : Option (List Path)) : ∃ request world success, Call.execute request world success ∈
      (c.collect E.logged file test line given (disk, state, [])).2.2.2 := by
  have hlogged : E.logged.hasSession (disk, state, []) := hsession
  obtain ⟨f, hanalyze⟩ := analyze_of_isFound hfound (sourcesOf c.limits disk file given)
  rw [collect_eq, measure_eq, ensureSession_eq, if_pos hlogged]
  simp only [hanalyze, Executor.logged]
  rcases E.execute _ _ with ⟨_ | m, w₂⟩ <;> exact ⟨_, _, _, List.mem_singleton.2 rfl⟩

theorem sources_capped_pair :
    ∃ request world success,
      Call.execute request world success ∈ ((new ⟨5, 2, 50⟩).collect idle.logged Sources.pairTestFile
        "test_f" 6 none (Sources.pairDisk, (), [])).2.2.2 ∧
      request.sources.length ≤ Sources.capOf Sources.pairDisk ⟨5, 2, 50⟩ Sources.pairTestFile := by
  have hfound : IsFound Sources.pairDisk Sources.pairTestFile "test_f" := by
    have hread : Sources.pairDisk.readText Sources.pairTestFile = .ok Sources.pairTest := by decide +kernel
    have hfunction : ((Python.parse Sources.pairTest).findFunction? "test_f").isSome := by decide +kernel
    obtain ⟨f, hf⟩ := Option.isSome_iff_exists.1 hfunction
    exact ⟨_, f, by rw [parseFile, hread], hf⟩
  -- From here on only what is found matters: a concrete disk would be evaluated at every step.
  generalize Sources.pairDisk = disk at hfound ⊢
  have hsession : idle.hasSession (disk, ()) := rfl
  obtain ⟨request, world, success, hcall⟩ := exists_execute hsession hfound (new ⟨5, 2, 50⟩) 6 none
  obtain ⟨-, -, hhanded⟩ := sources_capped idle (new ⟨5, 2, 50⟩) (disk, ()) Sources.pairTestFile
    "test_f" 6
  rw [inSession_of_hasSession hsession] at hhanded
  exact ⟨request, world, success, hcall, (hhanded rfl request world success hcall).2⟩

end Collector

namespace Sources

def absentTestFile : Path := ⟨"/tests/test_c.py"⟩

/-- With room for one candidate, a test that is not there has both source files. -/
theorem uncapped_without_test :
    resolve pairDisk ⟨5, 20, 1⟩ absentTestFile = [⟨"/src/a.py"⟩, ⟨"/src/b.py"⟩] ∧
      ¬ (resolve pairDisk ⟨5, 20, 1⟩ absentTestFile).length ≤ capOf pairDisk ⟨5, 20, 1⟩ absentTestFile := by
  have hread : pairDisk.readText absentTestFile = .error .notFound := by decide +kernel
  have hbeside : absentTestFile.parent? = pairTestFile.parent? := by decide +kernel
  have hcandidates : candidates pairDisk ⟨5, 20, 1⟩ absentTestFile = [⟨"/src/a.py"⟩, ⟨"/src/b.py"⟩] := by
    rw [← candidates_pair ⟨5, 20, 1⟩, candidates, candidates, hbeside]
  obtain ⟨hresolve, hcap⟩ := resolve_of_error ⟨5, 20, 1⟩ hread
  rw [hresolve, hcap, hcandidates]
  exact ⟨rfl, by decide⟩

end Sources

end TestTwins
