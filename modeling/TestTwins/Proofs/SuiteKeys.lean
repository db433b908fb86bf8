import TestTwins.Proofs.DetectorOutput
import TestTwins.Proofs.Questions
import TestTwins.Proofs.SessionProtocol

namespace TestTwins

namespace Table

variable {κ ν : Type} [DecidableEq κ]

theorem mem_keys_foldl_insert {entries : List (κ × ν)} {t : Table κ ν} {key : κ} :
    key ∈ (entries.foldl (fun t (k, v) => t.insert k v) t).keys ↔
      key ∈ t.keys ∨ key ∈ entries.map (·.1) := by
  induction entries generalizing t with
  | nil => simp
  | cons e entries ih =>
    have hinsert : key ∈ (t.insert e.1 e.2).keys ↔ key ∈ t.keys ∨ key = e.1 := by
      rw [keys_insert]
      split
      · rename_i hmem
        exact ⟨.inl, fun h => h.elim id fun heq => heq ▸ hmem⟩
      · simp
    rw [List.foldl_cons, ih, hinsert, List.map_cons, List.mem_cons, or_assoc]

theorem mem_keys_ofList {entries : List (κ × ν)} {key : κ} :
    key ∈ (ofList entries).keys ↔ key ∈ entries.map (·.1) := by
  rw [ofList, mem_keys_foldl_insert]
  simp [keys, empty]

theorem isSome_get?_iff {t : Table κ ν} {key : κ} : (t.get? key).isSome ↔ key ∈ t.keys := by
  rw [Option.isSome_iff_ne_none, ne_eq, get?_eq_none, not_not]

end Table

def Disk.SameFiles (files : List Path) (d d' : Disk) : Prop :=
  ∀ p ∈ files, d.isFile p = d'.isFile p ∧ d.readText p = d'.readText p

/-- Neither sessions nor tests change some files of a disk. -/
structure Executor.Spares {σ : Type} (E : Executor σ) (files : List Path) (disk : Disk) : Prop where
  start : ∀ w : Disk × σ, disk.SameFiles files w.1 → disk.SameFiles files (E.start w).2.1
  execute : ∀ (request : Request) (w : Disk × σ),
    disk.SameFiles files w.1 → disk.SameFiles files (E.execute request w).2.1

namespace Collector

variable {σ : Type} {E : Executor σ} {files : List Path} {disk : Disk}

theorem keeps_sameFiles_collect (h : E.Spares files disk) (c : Collector) (file : Path) (test : String)
    (line : Nat) (given : Option (List Path)) :
    Cluster.Keeps (fun w => disk.SameFiles files w.1) (c.collect E file test line given) := by
  refine Cluster.Keeps.bind ?_ fun _ => .pure _
  intro w hw
  have hsession : disk.SameFiles files (ensureSession E w).2.1 := by
    rw [ensureSession_eq]
    split
    · exact hw
    · exact h.start w hw
  rw [measure_eq]
  generalize ensureSession E w = started at *
  obtain ⟨_ | ⟨⟨⟩⟩, w₁⟩ := started
  · exact hsession
  cases hanalyze : c.analyze w₁.1 file test (sourcesOf c.limits w.1 file given) with
  | error e =>
    simp only [hanalyze]
    exact hsession
  | ok c' =>
    have hexecute := h.execute ⟨file, test, sourcesOf c.limits w.1 file given,
      Sources.importRoots w₁.1 file (sourcesOf c.limits w.1 file given)⟩ w₁ hsession
    simp only [hanalyze]
    generalize E.execute _ w₁ = answer at *
    obtain ⟨_ | m, w₂⟩ := answer <;> exact hexecute

def recordKey (file : Path) (test : String × Nat) : String := TestId.similarityKey ⟨test.1, file.text⟩

theorem keys_collectTests (E : Executor σ) (file : Path) (tests : List (String × Nat)) (c : Collector) :
    Cluster.Ends (fun r => r.1.map (·.1) = tests.map (recordKey file)) (collectTests E file tests c) := by
  induction tests generalizing c with
  | nil => exact .pure rfl
  | cons t rest ih =>
    exact (Cluster.Ends.any _).bind fun r _ => (ih r.2).bind fun s hs =>
      .pure (congrArg (recordKey file t :: ·) hs)

theorem testsOf_congr {p : Path} {d d' : Disk} (h : d.readText p = d'.readText p) :
    testsOf d p = testsOf d' p := by
  simp only [testsOf, parseFile, h]

theorem keys_collectSuite (h : E.Spares files disk) {part : List Path} (hpart : part ⊆ files)
    (c : Collector) {w : Disk × σ} (hw : disk.SameFiles files w.1) :
    (collectSuite E part c w).1.1.map (·.1) =
      part.flatMap fun p => (testsOf disk p).map (recordKey p) := by
  induction part generalizing c w with
  | nil => rfl
  | cons p rest ih =>
    obtain ⟨hp, hrest⟩ := List.cons_subset.1 hpart
    have hfirst := keys_collectTests E p (testsOf w.1 p) c w
    have hnext := keeps_collectTests (keeps_sameFiles_collect h) p (testsOf w.1 p) c w hw
    have hothers := ih hrest (collectTests E p (testsOf w.1 p) c w).1.2 hnext
    change List.map _ (_ ++ _) = _
    rw [List.map_append, hfirst, hothers, List.flatMap_cons, testsOf_congr (hw p hp).2]

theorem foundIn_of_mem_testsOf {p : Path} (hp : FeatureTable.isPython disk p) {test : String × Nat}
    (h : test ∈ testsOf disk p) : TestId.FoundIn ⟨test.1, p.text⟩ disk p := by
  simp only [testsOf] at h
  split at h
  · cases h
  · rename_i module hmodule
    obtain ⟨f, hf, rfl⟩ := List.mem_map.1 h
    obtain ⟨hmem, hname⟩ := List.mem_filter.1 hf
    exact ⟨hp, rfl, hname, module, hmodule, f, hmem, rfl⟩

end Collector

theorem TestId.FoundIn.toSimilarityKey? {t : TestId} {p : Path} {disk : Disk} (h : t.FoundIn disk p) :
    toSimilarityKey? t.featureKey = some t.similarityKey := by
  have hname : t.name ≠ "" := by
    intro hempty
    have hstart := h.name
    rw [hempty] at hstart
    exact absurd hstart (by decide)
  have hfile : t.file ≠ "" := by
    intro hempty
    have hpython := h.python
    have hp : p = ⟨""⟩ := congrArg Path.mk (h.file.trans hempty)
    rw [hp, FeatureTable.isPython] at hpython
    exact absurd (Bool.and_eq_true_iff.1 hpython).1 (by decide)
  rw [TestTwins.toSimilarityKey?, TestId.ofFeatureKey?, TestId.toList_featureKey,
    splitLast_append h.name_plain, Option.bind_some]
  exact congrArg (Option.map similarityKey) (TestId.ofParts?_toList hname hfile)

namespace FeatureTable

open Collector (testsOf)

variable {t : FeatureTable} {disk : Disk} {key : String}

theorem mem_keys_addFunction {file : String} {f : Python.Function} :
    key ∈ (t.addFunction file f).keys ↔ key ∈ t.keys ∨ key = TestId.featureKey ⟨f.name, file⟩ := by
  rw [keys_addFunction]
  split
  · rename_i hmem
    exact ⟨.inl, fun h => h.elim id fun heq => heq ▸ hmem⟩
  · simp

theorem mem_keys_addModule {file : String} {module : Python.Node} :
    key ∈ (t.addModule file module).1.keys ↔
      key ∈ t.keys ∨ ∃ f ∈ module.testFunctions, key = TestId.featureKey ⟨f.name, file⟩ := by
  change key ∈ (module.testFunctions.foldl (·.addFunction file ·) t).keys ↔ _
  induction module.testFunctions generalizing t with
  | nil => simp
  | cons f fs ih =>
    rw [List.foldl_cons, ih, mem_keys_addFunction, or_assoc, List.exists_mem_cons_iff]

theorem addFile_of_parse {p : Path} {module : Python.Node} (hp : isPython disk p)
    (hmodule : parseFile disk p = .ok module) (t : FeatureTable) :
    t.addFile disk p = .ok (t.addModule p.text module) := by
  rw [addFile, if_pos hp, hmodule]
  rfl

theorem mem_keys_readFiles {files : List Path} (hfiles : ∀ p ∈ files, isPython disk p) :
    key ∈ (Detector.readFiles disk files t).1.keys ↔
      key ∈ t.keys ∨ ∃ p ∈ files, ∃ test ∈ testsOf disk p, key = TestId.featureKey ⟨test.1, p.text⟩ := by
  induction files generalizing t with
  | nil => exact ⟨.inl, fun h => h.elim id fun ⟨_, hp, _⟩ => absurd hp List.not_mem_nil⟩
  | cons p rest ih =>
    obtain ⟨hp, hrest⟩ := List.forall_mem_cons.1 hfiles
    rw [List.exists_mem_cons_iff, ← or_assoc]
    cases hmodule : parseFile disk p with
    | error e =>
      have hadd : t.addFile disk p = .error e := by
        rw [addFile, if_pos hp, hmodule]
        rfl
      have htests : testsOf disk p = [] := by simp only [testsOf, hmodule]
      unfold Detector.readFiles
      simp only [hadd, ih hrest, htests]
      simp
    | ok module =>
      have hadd := addFile_of_parse hp hmodule t
      have htests : testsOf disk p = module.testFunctions.map fun f => (f.name, f.line) := by
        simp only [testsOf, hmodule]
      unfold Detector.readFiles
      simp only [hadd, ih hrest, mem_keys_addModule, htests, List.mem_map, exists_exists_and_eq_and]

theorem mem_keys_readFiles_empty {files : List Path} (hfiles : ∀ p ∈ files, isPython disk p) :
    key ∈ (Detector.readFiles disk files .empty).1.keys ↔
      ∃ p ∈ files, ∃ test ∈ testsOf disk p, key = TestId.featureKey ⟨test.1, p.text⟩ :=
  (mem_keys_readFiles hfiles).trans (or_iff_right List.not_mem_nil)

theorem readFiles_congr {files : List Path} {d d' : Disk} (h : d.SameFiles files d') (t : FeatureTable) :
    Detector.readFiles d files t = Detector.readFiles d' files t := by
  induction files generalizing t with
  | nil => rfl
  | cons p rest ih =>
    obtain ⟨⟨hfile, htext⟩, hrest⟩ := List.forall_mem_cons.1 h
    have hpython : isPython d p = isPython d' p := by rw [isPython, isPython, hfile]
    have hparse : parseFile d p = parseFile d' p := by rw [parseFile, parseFile, htext]
    have hadd : t.addFile d p = t.addFile d' p := by simp only [addFile, hpython, hparse]
    unfold Detector.readFiles
    simp only [hadd, ih hrest]

end FeatureTable

namespace Detector

variable {K : Type} [Scalar K]

def analyzeLogged (disk : Disk) (files : List Path) (coverage : Table String (Record K))
    (d : Detector K) : List (Cluster K) × List (Cluster.Question (Engine K)) :=
  let features := (readFiles disk files d.engine.features).1
  let engine := (d.engine.setCoverage coverage).setFeatures features
  let (clusters, _, questions) :=
    Cluster.ofKeys (Cluster.logged Engine.similarity) d.clusterConfig features.keys (engine, [])
  (clusters, questions)

theorem analyzeLogged_fst (disk : Disk) (files : List Path) (coverage : Table String (Record K))
    (d : Detector K) :
    (d.analyzeLogged disk files coverage).1 = (d.analyze disk files coverage).1.data := by
  have hmirrors := Cluster.mirrors_ofKeys (Cluster.mirrors_logged Engine.similarity) d.clusterConfig
    (readFiles disk files d.engine.features).1.keys
    ((d.engine.setCoverage coverage).setFeatures (readFiles disk files d.engine.features).1, [])
  exact congrArg Prod.fst hmirrors

theorem questions_analyzeLogged (disk : Disk) (files : List Path) (coverage : Table String (Record K))
    (d : Detector K) :
    ∀ q ∈ (d.analyzeLogged disk files coverage).2, q.IsAbout (fun e => e.coverage = coverage)
      (Cluster.accepted (readFiles disk files d.engine.features).1.keys) := by
  have hkeeps : ∀ a b, Cluster.Keeps (fun e : Engine K => e.coverage = coverage)
      (Engine.similarity a b) := by
    intro a b e he
    change (e.compare a b).2.clearCache.coverage = _
    rw [Engine.clearCache_compare]
    exact he
  exact (Cluster.questions_ofKeys hkeeps d.clusterConfig _ _ ⟨rfl, by simp⟩).2

end Detector

namespace Collector

variable {σ : Type} {E : Executor σ} {files : List Path} {w : Disk × σ}

theorem toSimilarityKey?_of_mem_testsOf {disk : Disk} {p : Path} (hp : FeatureTable.isPython disk p)
    {test : String × Nat} (h : test ∈ testsOf disk p) :
    toSimilarityKey? (TestId.featureKey ⟨test.1, p.text⟩) = some (recordKey p test) :=
  (foundIn_of_mem_testsOf hp h).toSimilarityKey?

theorem mem_keys_collectSuite (hpython : ∀ p ∈ files, FeatureTable.isPython w.1 p)
    (hspares : E.Spares files w.1) (c : Collector) {key : String} :
    key ∈ (Table.ofList (collectSuite E files c w).1.1).keys ↔
      ∃ k ∈ (Detector.readFiles w.1 files .empty).1.keys, toSimilarityKey? k = some key := by
  rw [Table.mem_keys_ofList, keys_collectSuite hspares (List.Subset.refl _) c fun _ _ => ⟨rfl, rfl⟩]
  simp only [List.mem_flatMap, List.mem_map]
  constructor
  · rintro ⟨p, hp, test, htest, rfl⟩
    exact ⟨_, (FeatureTable.mem_keys_readFiles_empty hpython).2 ⟨p, hp, test, htest, rfl⟩,
      toSimilarityKey?_of_mem_testsOf (hpython p hp) htest⟩
  · rintro ⟨k, hk, hkey⟩
    obtain ⟨p, hp, test, htest, rfl⟩ := (FeatureTable.mem_keys_readFiles_empty hpython).1 hk
    rw [toSimilarityKey?_of_mem_testsOf (hpython p hp) htest] at hkey
    exact ⟨p, hp, test, htest, Option.some.inj hkey⟩

/-- The records of a suite and its features are about the same tests: although each walk has its own form
of keys, every key of a feature has the other form, and these are the keys of the records. So whatever an
analysis of the suite with these records asks the engine, both records are there. -/
theorem collectSuite_names_features (E : Executor σ) (files : List Path) (w : Disk × σ)
    (hpython : ∀ p ∈ files, FeatureTable.isPython w.1 p) (hspares : E.Spares files w.1) (c : Collector)
    (weights : Weights Float) (thresholds : Thresholds Float) (minSize maxSize : Nat) :
    let collected := collectSuite E files c w
    let coverage := Table.ofList collected.1.1
    let features := (Detector.readFiles w.1 files .empty).1
    let detector := Detector.new weights thresholds minSize maxSize
    let analysis := detector.analyzeLogged collected.2.1 files coverage
    (∀ key ∈ features.keys, (toSimilarityKey? key).isSome) ∧
      {key | key ∈ coverage.keys} = {key | ∃ k ∈ features.keys, toSimilarityKey? k = some key} ∧
      analysis.1 = (detector.analyze collected.2.1 files coverage).1.data ∧
      ∀ q ∈ analysis.2,
        (q.state.coverage.get? q.first).isSome ∧ (q.state.coverage.get? q.second).isSome := by
  intro collected coverage features detector analysis
  have hafter : w.1.SameFiles files collected.2.1 :=
    keeps_collectSuite (keeps_sameFiles_collect hspares) files c w fun _ _ => ⟨rfl, rfl⟩
  have hrecord {id : TestId} (hid : id ∈ Cluster.accepted features.keys) :
      (coverage.get? id.similarityKey).isSome := by
    obtain ⟨hmem, hread⟩ := Cluster.featureKey_mem_of_mem_accepted hid
    rw [Table.isSome_get?_iff, mem_keys_collectSuite hpython hspares c]
    exact ⟨id.featureKey, hmem, congrArg (Option.map TestId.similarityKey) hread⟩
  refine ⟨?_, Set.ext fun _ => mem_keys_collectSuite hpython hspares c,
    Detector.analyzeLogged_fst _ _ _ _, ?_⟩
  · intro key hkey
    obtain ⟨p, hp, test, htest, rfl⟩ := (FeatureTable.mem_keys_readFiles_empty hpython).1 hkey
    rw [toSimilarityKey?_of_mem_testsOf (hpython p hp) htest]
    rfl
  · intro q hq
    have habout := Detector.questions_analyzeLogged collected.2.1 files coverage detector q hq
    have hsame : Detector.readFiles collected.2.1 files detector.engine.features =
        Detector.readFiles w.1 files .empty :=
      (FeatureTable.readFiles_congr hafter _).symm
    rw [hsame] at habout
    obtain ⟨hstate, a, ha, b, hb, hfirst, hsecond⟩ := habout
    rw [hstate, hfirst, hsecond]
    exact ⟨hrecord ha, hrecord hb⟩

section Suite

def mixed : Disk :=
  ⟨[(["t.py"], .file ⟨some "def test_a():pass\ndef test_b():pass\n", false, 0⟩),
    (["u.py"], .file ⟨none, false, 0⟩)], []⟩

theorem spares_idle (files : List Path) (disk : Disk) : idle.Spares files disk :=
  ⟨fun _ h => h, fun _ _ h => h⟩

theorem collectSuite_names_features_mixed :
    let collected := collectSuite idle [⟨"t.py"⟩, ⟨"u.py"⟩, ⟨"t.py"⟩] (new someLimits) (mixed, ())
    let coverage := Table.ofList collected.1.1
    let analysis := (Detector.new Weights.standard Thresholds.standard 2 10).analyzeLogged collected.2.1
      [⟨"t.py"⟩, ⟨"u.py"⟩, ⟨"t.py"⟩] coverage
    coverage.keys = ["test_a::t.py", "test_b::t.py"] ∧
      {key | key ∈ coverage.keys} = {key | ∃ k ∈ (Detector.readFiles mixed
        [⟨"t.py"⟩, ⟨"u.py"⟩, ⟨"t.py"⟩] .empty).1.keys, toSimilarityKey? k = some key} ∧
      analysis.2.map (fun q => (q.first, q.second)) =
        [("test_a::t.py", "test_b::t.py"), ("test_a::t.py", "test_b::t.py")] ∧
      ∀ q ∈ analysis.2,
        (q.state.coverage.get? q.first).isSome ∧ (q.state.coverage.get? q.second).isSome := by
  obtain ⟨-, hkeys, -, hrecords⟩ := collectSuite_names_features idle [⟨"t.py"⟩, ⟨"u.py"⟩, ⟨"t.py"⟩]
    (mixed, ()) (by decide +kernel) (spares_idle _ _) (new someLimits) Weights.standard
    Thresholds.standard 2 10
  exact ⟨by decide +kernel, hkeys, by decide +kernel, hrecords⟩

end Suite

end Collector

end TestTwins
