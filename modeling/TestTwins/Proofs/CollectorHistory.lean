import TestTwins.Collector
import TestTwins.Proofs.Clustering

namespace TestTwins.Collector

open Cluster (Ends)

variable {σ τ : Type}

inductive Op
  | collect (file : Path) (test : String) (line : Nat) (given : Option (List Path))
  | collectSuite (files : List Path)
  | clear
  | shutdown
  | edit (change : Disk → Disk)

def Op.apply (E : Executor σ) : Op → Collector × Disk × σ → Collector × Disk × σ
  | .collect file test line given, (c, w) =>
    let ((_, c), w) := c.collect E file test line given w
    (c, w)
  | .collectSuite files, (c, w) =>
    let ((_, c), w) := Collector.collectSuite E files c w
    (c, w)
  | .clear, (c, w) => (c.clear, w)
  | .shutdown, (c, w) => (c, (E.stop w).2)
  | .edit change, (c, disk, s) => (c, change disk, s)

def run (E : Executor σ) (ops : List Op) (start : Collector × Disk × σ) : Collector × Disk × σ :=
  ops.foldl (fun now op => op.apply E now) start

structure Keeps (limits : Sources.Limits) (c : Collector) : Prop where
  limits_eq : c.limits = limits
  imports : ∀ {key d}, c.diagnostics.get? key = some d → ∃ a, d.imports = .ok a

variable {limits : Sources.Limits} {c : Collector}

theorem keeps_new : (new limits).Keeps limits := ⟨rfl, fun h => nomatch h⟩

theorem Keeps.clear (h : c.Keeps limits) : c.clear.Keeps limits := ⟨h.limits_eq, fun h => nomatch h⟩

theorem diagnostics_addDiagnostics (c : Collector) (key : String) (d : Diagnostics) :
    (c.addDiagnostics key d).diagnostics = c.diagnostics.insert key d := by
  simp only [addDiagnostics]
  split <;> split <;> rfl

theorem limits_addDiagnostics (c : Collector) (key : String) (d : Diagnostics) :
    (c.addDiagnostics key d).limits = c.limits := by
  simp only [addDiagnostics]
  split <;> split <;> rfl

theorem Keeps.addDiagnostics (h : c.Keeps limits) (key : String) (f : Python.Function)
    (sources : List Path) :
    (c.addDiagnostics key (.ofFunction f sources)).Keeps limits := by
  refine ⟨(limits_addDiagnostics ..).trans h.limits_eq, fun {k d} hget => ?_⟩
  rw [diagnostics_addDiagnostics, Table.get?_insert] at hget
  split at hget
  · obtain rfl := Option.some.inj hget
    exact ⟨_, rfl⟩
  · exact h.imports hget

theorem Keeps.analyze (h : c.Keeps limits) {disk : Disk} {file : Path} {test : String}
    {sources : List Path} {c' : Collector} (heq : c.analyze disk file test sources = .ok c') :
    c'.Keeps limits := by
  simp only [Collector.analyze] at heq
  split at heq
  · cases heq
  · split at heq
    · cases heq
    · cases heq
      exact h.addDiagnostics _ _ _

section

variable (E : Executor σ)

theorem Keeps.measure (h : c.Keeps limits) (file : Path) (test : String) (line : Nat)
    (given : Option (List Path)) :
    Ends (fun r => r.2.Keeps limits) (c.measure E file test line given) := by
  refine (Ends.any _).bind fun now _ => (Ends.any _).bind fun session _ => ?_
  cases session with
  | error e => exact .pure h
  | ok _ =>
    refine (Ends.any _).bind fun now' _ => ?_
    cases heq : c.analyze now'.1 file test (given.getD (Sources.resolve now.1 c.limits file)) with
    | error e =>
      simp only [heq]
      exact .pure h
    | ok c' =>
      simp only [heq]
      refine (Ends.any _).bind fun answer _ => ?_
      cases answer with
      | error e => exact .pure (h.analyze heq)
      | ok m => exact (Ends.any _).bind fun _ _ => .pure (h.analyze heq)

theorem Keeps.collect (h : c.Keeps limits) (file : Path) (test : String) (line : Nat)
    (given : Option (List Path)) :
    Ends (fun r => r.2.Keeps limits) (c.collect E file test line given) :=
  (h.measure E file test line given).bind fun _ h' => .pure ⟨h'.limits_eq, h'.imports⟩

theorem Keeps.collectTests (h : c.Keeps limits) (file : Path) (tests : List (String × Nat)) :
    Ends (fun r => r.2.Keeps limits) (collectTests E file tests c) := by
  induction tests generalizing c with
  | nil => exact .pure h
  | cons t rest ih =>
    exact (h.collect E file t.1 t.2 none).bind fun _ h' => (ih h').bind fun _ h'' => .pure h''

theorem Keeps.collectSuite (h : c.Keeps limits) (files : List Path) :
    Ends (fun r => r.2.Keeps limits) (collectSuite E files c) := by
  induction files generalizing c with
  | nil => exact .pure h
  | cons file rest ih =>
    exact (Ends.any _).bind fun now _ => (h.collectTests E file (testsOf now.1 file)).bind fun _ h' =>
      (ih h').bind fun _ h'' => .pure h''

theorem Keeps.apply {now : Collector × Disk × σ} (h : now.1.Keeps limits) (op : Op) :
    (op.apply E now).1.Keeps limits := by
  cases op with
  | collect file test line given => exact h.collect E file test line given now.2
  | collectSuite files => exact h.collectSuite E files now.2
  | clear => exact h.clear
  | shutdown => exact h
  | edit change => exact h

theorem Keeps.run {now : Collector × Disk × σ} (h : now.1.Keeps limits) (ops : List Op) :
    (Collector.run E ops now).1.Keeps limits := by
  induction ops generalizing now with
  | nil => exact h
  | cons op ops ih => exact ih (h.apply E op)

end

def sourcesOf (limits : Sources.Limits) (disk : Disk) (file : Path) (given : Option (List Path)) :
    List Path :=
  given.getD (Sources.resolve disk limits file)

def inSession (E : Executor σ) (w : Disk × σ) : Disk × σ := (ensureSession E w).2

def answerOf (E : Executor σ) (limits : Sources.Limits) (w : Disk × σ) (file : Path) (test : String)
    (given : Option (List Path)) : Except InstrumentationError Measurement × Disk × σ :=
  let sources := sourcesOf limits w.1 file given
  E.execute ⟨file, test, sources, Sources.importRoots (inSession E w).1 file sources⟩ (inSession E w)

theorem collect_fst {E : Executor σ} {w : Disk × σ} (hsession : (ensureSession E w).1 = .ok ())
    (c : Collector) (file : Path) (test : String) (line : Nat) (given : Option (List Path)) :
    (c.collect E file test line given w).1.1 =
      match c.analyze (inSession E w).1 file test (sourcesOf c.limits w.1 file given) with
      | .error _ => c.recordOf (inSession E w).1 .empty file test line (sourcesOf c.limits w.1 file given)
      | .ok c' =>
        match (answerOf E c.limits w file test given).1 with
        | .error _ => .empty test file line
        | .ok m =>
          c'.recordOf (answerOf E c.limits w file test given).2.1 m file test line
            (sourcesOf c.limits w.1 file given) := by
  have hworld : ensureSession E w = (.ok (), inSession E w) := Prod.ext hsession rfl
  simp only [collect, measure, bind, StateT.bind, get, getThe, MonadStateOf.get, StateT.get, pure, hworld]
  unfold answerOf sourcesOf
  cases c.analyze (inSession E w).1 file test (given.getD (Sources.resolve w.1 c.limits file)) with
  | error e => rfl
  | ok c' =>
    simp only [StateT.bind, bind]
    rcases E.execute _ (inSession E w) with ⟨_ | m, w'⟩ <;> rfl

def IsFound (disk : Disk) (file : Path) (test : String) : Prop :=
  ∃ module f, parseFile disk file = .ok module ∧ module.findFunction? test = some f

theorem analyze_of_isFound {disk : Disk} {file : Path} {test : String} (h : IsFound disk file test)
    (sources : List Path) : ∃ f, ∀ c : Collector,
      c.analyze disk file test sources =
        .ok (c.addDiagnostics (keyOf file test) (.ofFunction f sources)) := by
  obtain ⟨module, f, hmodule, hf⟩ := h
  exact ⟨f, fun c => by simp only [analyze, hmodule, hf]⟩

theorem analyze_of_not_isFound {disk : Disk} {file : Path} {test : String}
    (h : ¬ IsFound disk file test) (sources : List Path) (c : Collector) :
    ∃ e, c.analyze disk file test sources = .error e := by
  cases hmodule : parseFile disk file with
  | error e => exact ⟨.parse e, by simp only [analyze, hmodule]⟩
  | ok module =>
    cases hf : module.findFunction? test with
    | none => exact ⟨.testNotFound file.text test, by simp only [analyze, hmodule, hf]⟩
    | some f => exact absurd ⟨module, f, hmodule, hf⟩ h

structure SameView (file : Path) (sources : List Path) (d d' : Disk) : Prop where
  text : d.readText file = d'.readText file
  real : ∀ p ∈ sources, d.canonical? p = d'.canonical? p

theorem SameView.parseFile {file : Path} {sources : List Path} {d d' : Disk}
    (h : SameView file sources d d') :
    parseFile d file = parseFile d' file := by
  simp only [TestTwins.parseFile, h.text]

theorem analyze_congr {file : Path} {sources : List Path} {d d' : Disk} (h : SameView file sources d d')
    (c : Collector) (test : String) :
    c.analyze d file test sources = c.analyze d' file test sources := by
  simp only [analyze, h.parseFile]

theorem ofSources_congr {lookup lookup' : Path → Option FileLines} {sources : List Path}
    (h : ∀ p ∈ sources, lookup p = lookup' p) (file : Path) (test : String) (line : Nat) :
    (Record.ofSources lookup file test line sources : Record Float) =
      Record.ofSources lookup' file test line sources := by
  have hmeasured : sources.filterMap lookup = sources.filterMap lookup' := List.filterMap_congr h
  have hparts : (sources.map fun s => Record.sourcePart s (lookup s)) =
      sources.map fun s => Record.sourcePart s (lookup' s) :=
    List.map_congr_left fun p hp => by rw [h p hp]
  simp only [Record.ofSources, hmeasured, hparts]

theorem recordOf_congr {c c' : Collector} {file : Path} {test : String} {sources : List Path}
    {d d' : Disk} (hknown : c.diagnostics? file test = c'.diagnostics? file test)
    (hview : SameView file sources d d') (m : Measurement) (line : Nat) :
    c.recordOf d m file test line sources = c'.recordOf d' m file test line sources := by
  have hlookup : ∀ p ∈ sources, m.lookup d p = m.lookup d' p :=
    fun p hp => by simp only [Measurement.lookup, hview.real p hp]
  have hbase := ofSources_congr hlookup file test line
  simp only [diagnostics?] at hknown
  simp only [recordOf, hbase, hknown]

theorem insights_of_recordOf {c c' : Collector} {file : Path} {test : String} {sources : List Path}
    {disk : Disk} {m : Measurement} {line : Nat} {known known' : Option Diagnostics}
    (hknown : c.diagnostics? file test = known) (hknown' : c'.diagnostics? file test = known')
    (h : c.recordOf disk m file test line sources = c'.recordOf disk m file test line sources) :
    Diagnostics.insights known sources.length = Diagnostics.insights known' sources.length := by
  have hsignature := congrArg String.toList (Option.some.inj (congrArg Record.signature h))
  simp only [String.toList_append, List.append_cancel_left_eq] at hsignature
  rw [← hknown, ← hknown']
  exact String.ext hsignature

theorem insights_ne {d : Diagnostics} {a : ImportAnalysis} (h : d.imports = .ok a) (n : Nat) :
    Diagnostics.insights (some d) n ≠ Diagnostics.insights none n := by
  intro heq
  have hhead := congrArg (fun s => s.toList.head?) heq
  simp [Diagnostics.insights, Diagnostics.importInsights, h, Signature.joinBars] at hhead

/-- The same question and the same answer in two worlds: the sources, the files that matter and what
running the test gives are the same, and a session is there or starts. -/
structure SameAnswer (E : Executor σ) (w : Disk × σ) (E' : Executor τ) (w' : Disk × τ)
    (limits : Sources.Limits) (file : Path) (test : String) (given : Option (List Path)) : Prop where
  sources : sourcesOf limits w.1 file given = sourcesOf limits w'.1 file given
  session : (ensureSession E w).1 = .ok ()
  session' : (ensureSession E' w').1 = .ok ()
  before : SameView file (sourcesOf limits w.1 file given) (inSession E w).1 (inSession E' w').1
  answer : (answerOf E limits w file test given).1 = (answerOf E' limits w' file test given).1
  after : SameView file (sourcesOf limits w.1 file given) (answerOf E limits w file test given).2.1
    (answerOf E' limits w' file test given).2.1

theorem collect_of_isFound {E : Executor σ} {w : Disk × σ} {E' : Executor τ} {w' : Disk × τ}
    {file : Path} {test : String} {given : Option (List Path)}
    (h : SameAnswer E w E' w' limits file test given) (hlimits : c.limits = limits)
    (hfound : IsFound (inSession E w).1 file test) (line : Nat) :
    (c.collect E file test line given w).1.1 =
    ((new limits).collect E' file test line given w').1.1 := by
  obtain ⟨f, hanalyze⟩ := analyze_of_isFound hfound (sourcesOf limits w.1 file given)
  have hanalyze' : ∀ c : Collector,
      c.analyze (inSession E' w').1 file test (sourcesOf limits w.1 file given) = _ :=
    fun c => (analyze_congr h.before c test).symm.trans (hanalyze c)
  have hknown : ∀ c : Collector, (c.addDiagnostics (keyOf file test)
      (.ofFunction f (sourcesOf limits w.1 file given))).diagnostics? file test =
        some (.ofFunction f (sourcesOf limits w.1 file given)) := by
    intro c
    rw [diagnostics?, diagnostics_addDiagnostics, Table.get?_insert, if_pos rfl]
  have hlimits' : (new limits).limits = limits := rfl
  rw [collect_fst h.session, collect_fst h.session', hlimits, hlimits', ← h.sources, hanalyze, hanalyze',
    ← h.answer]
  cases (answerOf E limits w file test given).1 with
  | error e => rfl
  | ok m => exact recordOf_congr ((hknown _).trans (hknown _).symm) h.after m line

theorem collect_of_not_isFound {E : Executor σ} {w : Disk × σ} {E' : Executor τ} {w' : Disk × τ}
    {file : Path} {test : String} {given : Option (List Path)}
    (h : SameAnswer E w E' w' limits file test given) (hc : c.Keeps limits)
    (hfound : ¬ IsFound (inSession E w).1 file test) (line : Nat) :
    (c.collect E file test line given w).1.1 = ((new limits).collect E' file test line given w').1.1 ↔
      c.diagnostics? file test = none := by
  obtain ⟨e, hanalyze⟩ := analyze_of_not_isFound hfound (sourcesOf limits w.1 file given) c
  obtain ⟨e', hanalyze'⟩ := analyze_of_not_isFound hfound (sourcesOf limits w.1 file given) (new limits)
  rw [analyze_congr h.before] at hanalyze'
  have hlimits' : (new limits).limits = limits := rfl
  rw [collect_fst h.session, collect_fst h.session', hc.limits_eq, hlimits', ← h.sources, hanalyze,
    hanalyze']
  constructor
  · intro heq
    cases hknown : c.diagnostics? file test with
    | none => rfl
    | some d =>
      obtain ⟨a, ha⟩ := hc.imports hknown
      rw [← recordOf_congr rfl h.before] at heq
      exact absurd (insights_of_recordOf hknown rfl heq) (insights_ne ha _)
  · intro hnone
    exact recordOf_congr hnone h.before .empty line

/-- After any history, the record of a test is the one that a new collector gives in the same world if
and only if the test is found now or nothing is known about it: what was known about a test that is gone
stays in its signature. -/
theorem collect_eq_fresh_iff (limits : Sources.Limits) (E : Executor σ) (ops : List Op) (w₀ : Disk × σ)
    (E' : Executor τ) (w' : Disk × τ) (file : Path) (test : String) (line : Nat)
    (given : Option (List Path))
    (h : SameAnswer E (run E ops (new limits, w₀)).2 E' w' limits file test given) :
    ((run E ops (new limits, w₀)).1.collect E file test line given (run E ops (new limits, w₀)).2).1.1 =
        ((new limits).collect E' file test line given w').1.1 ↔
      IsFound (inSession E (run E ops (new limits, w₀)).2).1 file test ∨
        (run E ops (new limits, w₀)).1.diagnostics? file test = none := by
  have hkeeps : (run E ops (new limits, w₀)).1.Keeps limits := keeps_new.run E ops
  by_cases hfound : IsFound (inSession E (run E ops (new limits, w₀)).2).1 file test
  · exact ⟨fun _ => .inl hfound, fun _ => collect_of_isFound h hkeeps.limits_eq hfound line⟩
  · rw [collect_of_not_isFound h hkeeps hfound line]
    exact (or_iff_right hfound).symm

section Gone

def idle : Executor Unit := ⟨fun _ => true, pure (.ok ()), pure (), fun _ => pure (.ok .empty)⟩

def oneFile (text : String) : Disk := ⟨[(["t.py"], .file ⟨some text, false, 0⟩)], []⟩

def someLimits : Sources.Limits := ⟨5, 20, 50⟩

def afterEdit (text : String) : Collector × Disk × Unit :=
  run idle [.collect ⟨"t.py"⟩ "test_a" 1 (some [⟨"s.py"⟩]), .edit fun _ => oneFile text]
    (new someLimits, oneFile "def test_a():pass\n", ())

theorem sameAnswer_idle (limits : Sources.Limits) (w : Disk × Unit) (file : Path) (test : String)
    (given : Option (List Path)) : SameAnswer idle w idle w limits file test given :=
  ⟨rfl, rfl, rfl, ⟨rfl, fun _ _ => rfl⟩, rfl, ⟨rfl, fun _ _ => rfl⟩⟩

theorem collect_eq_fresh_iff_found :
    ((afterEdit "def test_a():f()\n").1.collect idle ⟨"t.py"⟩ "test_a" 1 (some [⟨"s.py"⟩])
        (afterEdit "def test_a():f()\n").2).1.1 =
      ((new someLimits).collect idle ⟨"t.py"⟩ "test_a" 1 (some [⟨"s.py"⟩])
        (afterEdit "def test_a():f()\n").2).1.1 := by
  refine (collect_eq_fresh_iff someLimits idle _ _ idle _ ⟨"t.py"⟩ "test_a" 1 _
    (sameAnswer_idle _ _ _ _ _)).2 (.inl ?_)
  have hfound : ((Python.parse "def test_a():f()\n").findFunction? "test_a").isSome := by decide +kernel
  obtain ⟨f, hf⟩ := Option.isSome_iff_exists.1 hfound
  exact ⟨_, f, rfl, hf⟩

/-- The test is gone from the file, and the record still tells of its imports and calls. -/
theorem collect_of_gone :
    ((afterEdit "").1.collect idle ⟨"t.py"⟩ "test_a" 1 (some [⟨"s.py"⟩]) (afterEdit "").2).1.1.signature =
        some "s.py:0|analysis:imports:0|import_coverage:0.00|calls:0|assertions:0|source_files:1" ∧
      ((new someLimits).collect idle ⟨"t.py"⟩ "test_a" 1 (some [⟨"s.py"⟩])
          (afterEdit "").2).1.1.signature =
        some "s.py:0|analysis:source_files:1" ∧
      SameAnswer idle (afterEdit "").2 idle (afterEdit "").2 someLimits ⟨"t.py"⟩ "test_a"
        (some [⟨"s.py"⟩]) :=
  ⟨by decide +kernel, by decide +kernel, sameAnswer_idle _ _ _ _ _⟩

end Gone

end TestTwins.Collector
