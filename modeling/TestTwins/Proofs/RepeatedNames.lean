import TestTwins.Proofs.SuiteKeys

namespace TestTwins

namespace Python.Node

def definitions (root : Node) (name : String) : List Function := root.functions.filter (·.name == name)

theorem findFunction?_eq_head? (root : Node) (name : String) :
    root.findFunction? name = (root.definitions name).head? :=
  List.head?_filter.symm

theorem filter_testFunctions {name : String} (h : name.startsWith "test_") (root : Node) :
    root.testFunctions.filter (·.name == name) = root.definitions name := by
  rw [testFunctions, List.filter_filter, definitions]
  apply List.filter_congr
  intro f _
  by_cases hname : f.name = name
  · simp [hname, h]
  · simp [hname]

end Python.Node

theorem TestId.featureKey_injective (file : String) :
    Function.Injective fun name => TestId.featureKey ⟨name, file⟩ := by
  intro a b hkey
  apply String.ext
  have hlist := congrArg String.toList hkey
  simpa [TestId.toList_featureKey] using hlist

namespace FeatureTable

open Python

variable {t : FeatureTable} {file : String}

def kept (f : Function) : Signature := (Signature.ofFunction f).toOption.getD .empty

theorem get?_addFunction (f : Function) (name : String) :
    (t.addFunction file f).get? (TestId.featureKey ⟨name, file⟩) =
      if f.name = name then some (kept f) else t.get? (TestId.featureKey ⟨name, file⟩) := by
  have hfeatures : (t.addFunction file f).features =
      t.features.insert (TestId.featureKey ⟨f.name, file⟩) (kept f) := by
    simp only [addFunction, kept]
    cases Signature.ofFunction f <;> rfl
  rw [get?, hfeatures, Table.get?_insert]
  simp only [(TestId.featureKey_injective file).eq_iff]
  rfl

theorem get?_foldl_addFunction (fs : List Function) (name : String) :
    (fs.foldl (·.addFunction file ·) t).get? (TestId.featureKey ⟨name, file⟩) =
      ((fs.filter (·.name == name)).getLast?.map kept).or (t.get? (TestId.featureKey ⟨name, file⟩)) := by
  induction fs generalizing t with
  | nil => rfl
  | cons f rest ih =>
    rw [List.foldl_cons, ih, get?_addFunction, List.filter_cons]
    by_cases hname : f.name = name
    -- The function itself stays only if no other of its name follows.
    · simp only [hname, if_true, beq_self_eq_true, List.getLast?_cons]
      cases (rest.filter (·.name == name)).getLast? <;> rfl
    · simp [hname]

theorem get?_addModule {name : String} (h : name.startsWith "test_") (module : Node) :
    (t.addModule file module).1.get? (TestId.featureKey ⟨name, file⟩) =
      ((module.definitions name).getLast?.map kept).or (t.get? (TestId.featureKey ⟨name, file⟩)) := by
  rw [← Node.filter_testFunctions h]
  exact get?_foldl_addFunction _ _

theorem size_addModule_iff {disk : Disk} {p : Path} {module : Node} (hpython : isPython disk p)
    (hmodule : parseFile disk p = .ok module) :
    (empty.addModule p.text module).1.size = module.testFunctions.length ↔
      (module.testFunctions.map (·.name)).Nodup := by
  let key := fun name => TestId.featureKey ⟨name, p.text⟩
  have hnodup : (empty.addModule p.text module).1.keys.Nodup :=
    ((lists_empty.mono (List.nil_subset [(disk, p)])).addModule List.mem_cons_self hpython hmodule).nodup
  have hmem : ∀ k, k ∈ (empty.addModule p.text module).1.keys ↔
      k ∈ (module.testFunctions.map (·.name)).map key := by
    intro k
    rw [mem_keys_addModule]
    simp [keys, empty, Table.keys, Table.empty, key, eq_comm]
  have hcount := length_eq_iff_nodup hnodup hmem
  rw [List.nodup_map_iff (TestId.featureKey_injective p.text), List.length_map, List.length_map] at hcount
  rw [← hcount, keys, Table.keys, List.length_map]
  rfl

/-- A table keeps the last definition of a test name, and the first is the one that is found by name and
whose coverage is collected; they are the same if there is one only. The count that is returned is the
number of tests in the table if and only if no test name is defined twice. -/
theorem addFile_keeps_last {disk : Disk} {p : Path} {module : Node} (hpython : isPython disk p)
    (hmodule : parseFile disk p = .ok module) (t : FeatureTable) :
    ∃ after count, t.addFile disk p = .ok (after, count) ∧
      (∀ name f, name.startsWith "test_" → module.findFunction? name = some f →
        (∀ (c : Collector) (sources : List Path), c.analyze disk p name sources =
          .ok (c.addDiagnostics (Collector.keyOf p name) (.ofFunction f sources))) ∧
        ∃ g, (module.definitions name).getLast? = some g ∧
          after.get? (Collector.keyOf p name) = some (kept g) ∧
          ((module.definitions name).length = 1 → g = f)) ∧
      (t = empty → (count = after.size ↔ (module.testFunctions.map (·.name)).Nodup)) := by
  refine ⟨_, _, addFile_of_parse hpython hmodule t, ?_, ?_⟩
  · intro name f hname hf
    constructor
    · intro c sources
      simp only [Collector.analyze, hmodule, hf]
    · rw [Node.findFunction?_eq_head?] at hf
      have hget : (t.addModule p.text module).1.get? (Collector.keyOf p name) = _ :=
        get?_addModule hname module
      obtain ⟨rest, hdefinitions⟩ := List.head?_eq_some_iff.1 hf
      rw [hdefinitions] at hget ⊢
      rw [List.getLast?_cons] at hget ⊢
      refine ⟨_, rfl, hget, ?_⟩
      intro hlength
      obtain rfl : rest = [] := List.length_eq_zero_iff.1 (Nat.succ.inj hlength)
      rfl
  · rintro rfl
    exact eq_comm.trans (size_addModule_iff hpython hmodule)

section Twice

def once : String := "def test_a():pass\ndef test_b():raise E\n"

theorem addFile_keeps_last_once :
    ∃ after, empty.addFile (Collector.oneFile once) ⟨"t.py"⟩ = .ok (after, 2) ∧ after.size = 2 ∧
      after.get? "t.py:test_b" = ((parse once).findFunction? "test_b").map kept := by
  have hpython : isPython (Collector.oneFile once) ⟨"t.py"⟩ := by decide +kernel
  obtain ⟨after, count, hadd, hnames, hcount⟩ := addFile_keeps_last hpython rfl empty
  have htwo : (empty.addFile (Collector.oneFile once) ⟨"t.py"⟩).toOption.map (·.2) = some 2 := by
    decide +kernel
  rw [hadd] at htwo
  obtain rfl : count = 2 := Option.some.inj htwo
  have hfound : ((parse once).findFunction? "test_b").isSome := by decide +kernel
  obtain ⟨f, hf⟩ := Option.isSome_iff_exists.1 hfound
  obtain ⟨-, g, -, hget, hg⟩ := hnames "test_b" f (by decide +kernel) hf
  obtain rfl : g = f := hg (by decide +kernel)
  refine ⟨after, hadd, ((hcount rfl).2 (by decide +kernel)).symm, ?_⟩
  rw [hf]
  exact hget

def twice : String := "def test_a():pass\nclass C:\n def test_a(self):raise E\n"

/-- The function is found, the features are those of the method, and the count is of both. -/
theorem found_ne_kept_of_twice :
    ((parse twice).findFunction? "test_a").map kept =
        some ⟨0, "", "func:test_a|params:0|decorators:0|statements:1|mocks:0"⟩ ∧
      (empty.addFile (Collector.oneFile twice) ⟨"t.py"⟩).toOption.map
          (fun r => (r.1.get? "t.py:test_a", r.1.size, r.2)) =
        some (some ⟨0, "raise_E",
          "func:test_a|params:1|decorators:0|statements:1|mocks:0|exceptions:raise_E"⟩, 1, 2) := by
  decide +kernel

end Twice

end FeatureTable

end TestTwins
