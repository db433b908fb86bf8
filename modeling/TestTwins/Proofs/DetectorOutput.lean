import TestTwins.Proofs.DetectorHistory
import TestTwins.Proofs.FunctionNames

namespace TestTwins

namespace Cluster

variable {σ K : Type} [Scalar K] (scorer : Scorer σ K) (config : ClusterConfig K)

structure IsLed (minSize : Nat) (c : Cluster K) : Prop where
  size : minSize ≤ c.tests.length
  head : c.tests.head? = some c.representative

theorem ends_build {seed : TestId} {others : List TestId} (hsize : config.minSize ≤ others.length + 1) :
    Ends (fun c => c.tests = seed :: others ∧ c.IsLed config.minSize) (build scorer config seed others) :=
  (Ends.any _).bind fun _ _ => .pure ⟨rfl, hsize, rfl⟩

theorem ends_rounds (fuel : Nat) (l : List TestId) :
    Ends (fun cs => (∀ c ∈ cs, c.IsLed config.minSize) ∧ (cs.flatMap (·.tests)).Subperm l)
      (rounds scorer config fuel l) := by
  have hnil : ∀ l : List TestId, (∀ c ∈ ([] : List (Cluster K)), c.IsLed config.minSize) ∧
      (([] : List (Cluster K)).flatMap (·.tests)).Subperm l :=
    fun l => ⟨by simp, List.nil_subperm⟩
  induction fuel generalizing l with
  | zero => exact .pure (hnil l)
  | succ fuel ih =>
    cases l with
    | nil => exact .pure (hnil [])
    | cons seed l =>
      refine (ends_divide scorer config seed l).bind fun (taken, free) hperm => ?_
      change Ends _ (if taken.length + 1 < config.minSize then _ else _)
      have hfree : free.Subperm l := (List.sublist_append_right taken free).subperm.trans hperm.subperm
      split
      · intro s
        obtain ⟨hled, hsub⟩ := ih free s
        exact ⟨hled, hsub.trans (hfree.trans (List.sublist_cons_self seed l).subperm)⟩
      · rename_i hsmall
        refine (ends_build scorer config (Nat.not_lt.1 hsmall)).bind fun c ⟨htests, hc⟩ =>
          (ih free).bind fun cs ⟨hled, hsub⟩ => .pure ⟨List.forall_mem_cons.2 ⟨hc, hled⟩, ?_⟩
        rw [List.flatMap_cons, htests, List.cons_append, List.subperm_cons]
        exact ((List.subperm_append_left taken).2 hsub).trans hperm.subperm

theorem ends_ofKeys {keys : List String} (h : keys.Nodup) :
    Ends (fun cs => (cs.flatMap (·.tests)).Nodup ∧
        ∀ c ∈ cs, c.IsLed config.minSize ∧ ∀ t ∈ c.tests, t ∈ accepted keys)
      (ofKeys scorer config keys) := by
  intro s
  obtain ⟨hled, hsub⟩ := ends_rounds scorer config (accepted keys).length (accepted keys) s
  refine ⟨?_, fun c hc => ⟨hled c hc, fun t ht => hsub.subset (List.mem_flatMap.2 ⟨c, hc, ht⟩)⟩⟩
  obtain ⟨l, hperm, hsublist⟩ := hsub
  exact hperm.nodup_iff.1 ((nodup_accepted h).sublist hsublist)

end Cluster

namespace TestId

theorem eq_of_ofFeatureKey? {t id : TestId} (hname : ':' ∉ id.name.toList)
    (h : ofFeatureKey? id.featureKey = some t) : t = id := by
  rw [ofFeatureKey?, toList_featureKey, splitLast_append hname, Option.bind_some] at h
  simp only [ofParts?, String.ofList_toList] at h
  split at h
  · cases h
  · cases h
    rfl

structure FoundIn (t : TestId) (disk : Disk) (p : Path) : Prop where
  python : FeatureTable.isPython disk p
  file : p.text = t.file
  name : t.name.startsWith "test_"
  function : ∃ module, parseFile disk p = .ok module ∧ ∃ f ∈ module.functions, f.name = t.name

theorem FoundIn.name_plain {t : TestId} {disk : Disk} {p : Path} (h : t.FoundIn disk p) :
    ':' ∉ t.name.toList := by
  obtain ⟨module, hmodule, f, hf, hname⟩ := h.function
  simp only [parseFile] at hmodule
  split at hmodule
  · cases hmodule
    rw [← hname]
    intro hcolon
    exact absurd (Python.isWord_name hf ':' hcolon) (by decide)
  · cases hmodule

end TestId

namespace FeatureTable

variable {t : FeatureTable} {seen : List (Disk × Path)} {disk : Disk} {p : Path}

structure Lists (t : FeatureTable) (seen : List (Disk × Path)) : Prop where
  nodup : t.keys.Nodup
  found : ∀ key ∈ t.keys, ∃ id : TestId, id.featureKey = key ∧ ∃ place ∈ seen, id.FoundIn place.1 place.2

theorem lists_empty : empty.Lists [] := ⟨List.nodup_nil, by simp [keys, empty, Table.keys, Table.empty]⟩

theorem Lists.mono {seen' : List (Disk × Path)} (h : t.Lists seen) (hsub : seen ⊆ seen') :
    t.Lists seen' := by
  refine ⟨h.nodup, fun key hkey => ?_⟩
  obtain ⟨id, hid, place, hplace, hfound⟩ := h.found key hkey
  exact ⟨id, hid, place, hsub hplace, hfound⟩

theorem keys_addFunction (t : FeatureTable) (file : String) (f : Python.Function) :
    (t.addFunction file f).keys =
      if TestId.featureKey ⟨f.name, file⟩ ∈ t.keys then t.keys
      else t.keys ++ [TestId.featureKey ⟨f.name, file⟩] := by
  simp only [addFunction]
  split <;> exact Table.keys_insert _ _ _

theorem Lists.addFunction (h : t.Lists seen) (hp : (disk, p) ∈ seen) {f : Python.Function}
    (hf : TestId.FoundIn ⟨f.name, p.text⟩ disk p) : (t.addFunction p.text f).Lists seen := by
  by_cases hkey : TestId.featureKey ⟨f.name, p.text⟩ ∈ t.keys
  · have hkeys := keys_addFunction t p.text f
    rw [if_pos hkey] at hkeys
    exact ⟨hkeys ▸ h.nodup, hkeys ▸ h.found⟩
  · have hkeys := keys_addFunction t p.text f
    rw [if_neg hkey] at hkeys
    refine ⟨?_, ?_⟩
    · rw [hkeys, ← List.concat_eq_append]
      exact h.nodup.concat hkey
    · rw [hkeys]
      intro key hmem
      rcases List.mem_append.1 hmem with hmem | hmem
      · exact h.found key hmem
      · exact ⟨_, (List.mem_singleton.1 hmem).symm, _, hp, hf⟩

theorem Lists.addModule (h : t.Lists seen) (hp : (disk, p) ∈ seen) (hpython : isPython disk p)
    {module : Python.Node} (hmodule : parseFile disk p = .ok module) :
    (t.addModule p.text module).1.Lists seen := by
  have hfound : ∀ f ∈ module.testFunctions, TestId.FoundIn ⟨f.name, p.text⟩ disk p := by
    intro f hf
    obtain ⟨hmem, hname⟩ := List.mem_filter.1 hf
    exact ⟨hpython, rfl, hname, module, hmodule, f, hmem, rfl⟩
  change (module.testFunctions.foldl (·.addFunction p.text ·) t).Lists seen
  generalize module.testFunctions = fs at hfound
  induction fs generalizing t with
  | nil => exact h
  | cons f fs ih =>
    obtain ⟨hf, hfs⟩ := List.forall_mem_cons.1 hfound
    exact ih (h.addFunction hp hf) hfs

theorem Lists.addFile (h : t.Lists seen) (hp : (disk, p) ∈ seen) {t' : FeatureTable} {n : Nat}
    (heq : t.addFile disk p = .ok (t', n)) : t'.Lists seen := by
  simp only [FeatureTable.addFile] at heq
  split at heq
  · rename_i hpython
    cases hmodule : parseFile disk p with
    | error e => simp [hmodule, bind, Except.bind] at heq
    | ok module =>
      have hresult : t.addModule p.text module = (t', n) := by
        simpa [hmodule, bind, Except.bind, pure, Except.pure] using heq
      have hlists := h.addModule hp hpython hmodule
      rwa [hresult] at hlists
  · cases heq
    exact h

theorem Lists.readFiles (h : t.Lists seen) {files : List Path}
    (hfiles : ∀ p ∈ files, (disk, p) ∈ seen) :
    (Detector.readFiles disk files t).1.Lists seen := by
  induction files generalizing t with
  | nil => exact h
  | cons p rest ih =>
    obtain ⟨hp, hrest⟩ := List.forall_mem_cons.1 hfiles
    unfold Detector.readFiles
    split
    · rename_i heq
      exact ih (h.addFile hp heq) hrest
    · exact ih h hrest

theorem Lists.foundIn (h : t.Lists seen) {id : TestId} (hid : id ∈ Cluster.accepted t.keys) :
    ∃ place ∈ seen, id.FoundIn place.1 place.2 := by
  obtain ⟨hmem, hread⟩ := Cluster.featureKey_mem_of_mem_accepted hid
  obtain ⟨id', hkey, place, hplace, hfound⟩ := h.found _ hmem
  rw [← hkey] at hread
  rw [TestId.eq_of_ofFeatureKey? hfound.name_plain hread]
  exact ⟨place, hplace, hfound⟩

end FeatureTable

structure Thresholds.InUnit (t : Thresholds Float) : Prop where
  exact : 0 ≤ t.exact ∧ t.exact ≤ 1
  near : 0 ≤ t.near ∧ t.near ≤ 1
  similar : 0 ≤ t.similar ∧ t.similar ≤ 1

theorem acceptThreshold_inUnit {old : Float} (h : 0 ≤ old ∧ old ≤ 1) (new : Option Float) :
    0 ≤ acceptThreshold old new ∧ acceptThreshold old new ≤ 1 := by
  have hzero : (Scalar.zero : Float) = 0 := by decide +kernel
  have hone : (Scalar.one : Float) = 1 := by decide +kernel
  cases new with
  | none => exact h
  | some v =>
    simp only [acceptThreshold, hzero, hone]
    split
    · assumption
    · exact h

theorem Thresholds.InUnit.update {t : Thresholds Float} (h : t.InUnit) (u : ThresholdUpdate Float) :
    (t.update u).InUnit :=
  ⟨acceptThreshold_inUnit h.exact u.exact, acceptThreshold_inUnit h.near u.near,
    acceptThreshold_inUnit h.similar u.similar⟩

namespace Config

theorem share_inUnit {shares : List (String × Option Float)} (h : badShare? shares = none)
    {name : String} {value : Option Float} (hmem : (name, value) ∈ shares) {default : Float}
    (hdefault : 0 ≤ default ∧ default ≤ 1) :
    0 ≤ value.getD default ∧ value.getD default ≤ 1 := by
  cases value with
  | none => exact hdefault
  | some x =>
    have hgood := List.find?_eq_none.1 (Option.map_eq_none_iff.1 h) _ hmem
    simpa using hgood

theorem of_validate {c : Config} (h : c.validate = .ok ()) :
    c.duplicates.thresholds.InUnit ∧ 2 ≤ c.duplicates.minSize := by
  simp only [validate] at h
  split at h
  · cases h
  · rename_i hshares
    split at h
    · cases h
    · rename_i hsize
      refine ⟨⟨?_, ?_, ?_⟩, Nat.not_lt.1 hsize⟩
      · exact share_inUnit hshares (.head _) (by decide +kernel)
      · exact share_inUnit hshares (.tail _ (.head _)) (by decide +kernel)
      · exact share_inUnit hshares (.tail _ (.tail _ (.head _))) (by decide +kernel)

end Config

namespace Detector

section

variable {K : Type}

def Op.IsOwn : Op K → Prop
  | .engine _ => False
  | _ => True

/-- The files looked at since everything was last forgotten, each with the disk at that time. -/
def Op.seenAfter : Op K → List (Disk × Path) → List (Disk × Path)
  | .analyze disk files _, seen => seen ++ files.map (disk, ·)
  | .clear, _ => []
  | _, seen => seen

def seen (ops : List (Op K)) : List (Disk × Path) := ops.foldl (fun seen op => op.seenAfter seen) []

variable [Scalar K]

theorem features_analyze (d : Detector K) (disk : Disk) (files : List Path)
    (coverage : Table String (Record K)) :
    (d.analyze disk files coverage).2.engine.features = (readFiles disk files d.engine.features).1 := by
  have hkeeps : ∀ a b, Cluster.Keeps
      (fun e : Engine K => e.features = (readFiles disk files d.engine.features).1)
      (Engine.similarity a b) := by
    intro a b e he
    change (e.compare a b).2.clearCache.features = _
    rw [Engine.clearCache_compare]
    exact he
  exact Cluster.keeps_ofKeys hkeeps d.clusterConfig _ _ rfl

theorem lists_apply {d : Detector K} {places : List (Disk × Path)} {op : Op K} (hop : op.IsOwn)
    (h : d.engine.features.Lists places) :
    (op.apply d).engine.features.Lists (op.seenAfter places) := by
  cases op with
  | analyze disk files coverage =>
    change (d.analyze disk files coverage).2.engine.features.Lists (places ++ files.map (disk, ·))
    rw [features_analyze]
    exact (h.mono (List.subset_append_left _ _)).readFiles fun p hp => by simp [hp]
  | updateThresholds u => exact h
  | clear => exact FeatureTable.lists_empty
  | engine op => exact hop.elim

theorem lists_run {d : Detector K} {places : List (Disk × Path)} {ops : List (Op K)}
    (hops : ∀ op ∈ ops, op.IsOwn) (h : d.engine.features.Lists places) :
    (d.run ops).engine.features.Lists (ops.foldl (fun seen op => op.seenAfter seen) places) := by
  induction ops generalizing d places with
  | nil => exact h
  | cons op ops ih =>
    obtain ⟨hop, hrest⟩ := List.forall_mem_cons.1 hops
    exact ih hrest (lists_apply hop h)

end

theorem thresholdsAfter_inUnit {t : Thresholds Float} (h : t.InUnit) {ops : List (Op Float)}
    (hops : ∀ op ∈ ops, op.IsOwn) : (thresholdsAfter t ops).InUnit := by
  induction ops generalizing t with
  | nil => exact h
  | cons op ops ih =>
    obtain ⟨hop, hrest⟩ := List.forall_mem_cons.1 hops
    refine ih ?_ hrest
    cases op with
    | updateThresholds u => exact h.update u
    | engine op => exact hop.elim
    | _ => exact h

/-- Whatever a detector with accepted settings has been through, it compares scores with thresholds
between zero and one, and what it reports are groups of at least the smallest size, and of two tests;
each is led by its first test, no test is reported twice, and every test was found in a file looked at
since the last clearing. -/
theorem analyze_wellFormed (c : Config) (hc : c.validate = .ok ()) (ops : List (Op Float))
    (hops : ∀ op ∈ ops, op.IsOwn) (disk : Disk) (files : List Path)
    (coverage : Table String (Record Float)) :
    ((ofConfig c).run ops).clusterConfig.thresholds.InUnit ∧
      ((((ofConfig c).run ops).analyze disk files coverage).1.data.flatMap (·.tests)).Nodup ∧
      ∀ cluster ∈ (((ofConfig c).run ops).analyze disk files coverage).1.data,
        max 2 c.duplicates.minSize ≤ cluster.tests.length ∧
          cluster.tests.head? = some cluster.representative ∧
          ∀ t ∈ cluster.tests, ∃ place ∈ seen ops ++ files.map (disk, ·), t.FoundIn place.1 place.2 := by
  obtain ⟨hunit, htwo⟩ := c.of_validate hc
  have hclear := clear_run (d := ofConfig c) rfl ops
  have hthresholds : ((ofConfig c).run ops).clusterConfig.thresholds =
      thresholdsAfter c.duplicates.thresholds ops :=
    congrArg (fun d => d.engine.thresholds) hclear
  have hsize : ((ofConfig c).run ops).clusterConfig.minSize = c.duplicates.minSize :=
    congrArg minSize hclear
  have hlists : (readFiles disk files ((ofConfig c).run ops).engine.features).1.Lists
      (seen ops ++ files.map (disk, ·)) :=
    ((lists_run hops FeatureTable.lists_empty).mono (List.subset_append_left _ _)).readFiles
      fun p hp => by simp [hp]
  obtain ⟨hnodup, hclusters⟩ := Cluster.ends_ofKeys Engine.similarity
    ((ofConfig c).run ops).clusterConfig hlists.nodup
    ((((ofConfig c).run ops).engine.setCoverage coverage).setFeatures
      (readFiles disk files ((ofConfig c).run ops).engine.features).1)
  refine ⟨hthresholds ▸ thresholdsAfter_inUnit hunit hops, hnodup, fun cluster hcluster => ?_⟩
  obtain ⟨hled, htests⟩ := hclusters cluster hcluster
  refine ⟨?_, hled.head, fun t ht => hlists.foundIn (htests t ht)⟩
  rw [max_eq_right htwo, ← hsize]
  exact hled.size

def twins : Disk := ⟨[(["t.py"], .file ⟨some "def test_a():pass\ndef test_b():pass\n", false, 0⟩)], []⟩

def twinsHistory : List (Op Float) :=
  [.clear, .updateThresholds ⟨none, none, some 0.5⟩, .analyze twins [⟨"t.py"⟩] .empty]

theorem isOwn_twinsHistory : ∀ op ∈ twinsHistory, op.IsOwn :=
  List.forall_mem_cons.2 ⟨trivial, List.forall_mem_cons.2 ⟨trivial,
    List.forall_mem_cons.2 ⟨trivial, by simp⟩⟩⟩

theorem analyze_wellFormed_twins :
    (((ofConfig .empty).run twinsHistory).analyze twins [] .empty).1.data.map (·.tests) =
        [[⟨"test_a", "t.py"⟩, ⟨"test_b", "t.py"⟩]] ∧
      ((ofConfig .empty).run twinsHistory).clusterConfig.thresholds.InUnit ∧
      ∀ cluster ∈ (((ofConfig .empty).run twinsHistory).analyze twins [] .empty).1.data,
        2 ≤ cluster.tests.length ∧ ∀ t ∈ cluster.tests, t.FoundIn twins ⟨"t.py"⟩ := by
  obtain ⟨hunit, -, hclusters⟩ :=
    analyze_wellFormed .empty rfl twinsHistory isOwn_twinsHistory twins [] .empty
  refine ⟨by decide +kernel, hunit, fun cluster hcluster => ?_⟩
  obtain ⟨hsize, -, htests⟩ := hclusters cluster hcluster
  refine ⟨(le_max_left 2 _).trans hsize, fun t ht => ?_⟩
  obtain ⟨place, hplace, hfound⟩ := htests t ht
  obtain rfl : place = (twins, ⟨"t.py"⟩) := List.mem_singleton.1 hplace
  exact hfound

end Detector

end TestTwins
