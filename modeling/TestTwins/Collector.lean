import TestTwins.Config
import TestTwins.Diagnostics
import TestTwins.Runner
import TestTwins.Sources.Resolver

/-! Collecting what each test covers: its sources are found, the test is looked at, run and measured.
Whatever goes wrong gives the empty record of the test. -/

namespace TestTwins

structure Collector where
  limits : Sources.Limits
  records : Table String (Record Float)
  diagnostics : Table String Diagnostics
  importedFiles : List Path
  calledFunctions : TokenSet

namespace Collector

def new (limits : Sources.Limits) : Collector := ⟨limits, .empty, .empty, [], .empty⟩

def limitsOf (c : Config) : Sources.Limits :=
  ⟨c.coverage.parentDepth, c.coverage.selectedFiles, c.coverage.candidateFiles⟩

def keyOf (file : Path) (test : String) : String := TestId.featureKey ⟨test, file.text⟩

def addDiagnostics (c : Collector) (key : String) (d : Diagnostics) : Collector :=
  let c := match d.imports with
    | .ok a => { c with importedFiles := a.files.foldl Path.pushNew c.importedFiles }
    | .error _ => c
  let c := match d.calls with
    | .ok a => { c with calledFunctions := c.calledFunctions.union a.called }
    | .error _ => c
  { c with diagnostics := c.diagnostics.insert key d }

def analyze (c : Collector) (disk : Disk) (file : Path) (test : String) (sources : List Path) :
    Except AnalysisError Collector :=
  match parseFile disk file with
  | .error e => .error (.parse e)
  | .ok module =>
    match module.findFunction? test with
    | none => .error (.testNotFound file.text test)
    | some f => .ok (c.addDiagnostics (keyOf file test) (.ofFunction f sources))

section

variable {σ : Type} (executor : Executor σ)

def ensureSession : StateM (Disk × σ) (Except InstrumentationError Unit) := do
  if executor.hasSession (← get) then return .ok () else executor.start

def recordOf (c : Collector) (disk : Disk) (m : Measurement) (file : Path) (test : String) (line : Nat)
    (sources : List Path) : Record Float :=
  let base := Record.ofSources (m.lookup disk) file test line sources
  let insights := Diagnostics.insights (c.diagnostics.get? (keyOf file test)) sources.length
  base.withSignature (base.signature.getD "" ++ "|analysis:" ++ insights)

/-- The record of a test, if its session starts and it runs. A test that cannot be found is not run. -/
def measure (c : Collector) (file : Path) (test : String) (line : Nat) (given : Option (List Path)) :
    StateM (Disk × σ) (Except InstrumentationError (Record Float) × Collector) := do
  let disk := (← get).1
  let sources := given.getD (Sources.resolve disk c.limits file)
  match ← ensureSession executor with
  | .error e => return (.error e, c)
  | .ok () =>
    let disk := (← get).1
    match c.analyze disk file test sources with
    | .error _ => return (.ok (c.recordOf disk .empty file test line sources), c)
    | .ok c =>
      let roots := Sources.importRoots disk file sources
      match ← executor.execute ⟨file, test, sources, roots⟩ with
      | .error e => return (.error e, c)
      | .ok m => return (.ok (c.recordOf (← get).1 m file test line sources), c)

def collect (c : Collector) (file : Path) (test : String) (line : Nat) (given : Option (List Path)) :
    StateM (Disk × σ) (Record Float × Collector) := do
  let (result, c) ← c.measure executor file test line given
  let record := match result with
    | .ok r => r
    | .error _ => .empty test file line
  return (record, { c with records := c.records.insert (keyOf file test) record })

def collectTests (file : Path) : List (String × Nat) → Collector →
    StateM (Disk × σ) (List (String × Record Float) × Collector)
  | [], c => return ([], c)
  | (test, line) :: rest, c => do
    let (record, c) ← c.collect executor file test line none
    let (others, c) ← collectTests file rest c
    return ((TestId.similarityKey ⟨test, file.text⟩, record) :: others, c)

def testsOf (disk : Disk) (file : Path) : List (String × Nat) :=
  match parseFile disk file with
  | .error _ => []
  | .ok module => module.testFunctions.map fun f => (f.name, f.line)

def collectSuite : List Path → Collector →
    StateM (Disk × σ) (List (String × Record Float) × Collector)
  | [], c => return ([], c)
  | file :: rest, c => do
    let (first, c) ← collectTests executor file (testsOf (← get).1 file) c
    let (others, c) ← collectSuite rest c
    return (first ++ others, c)

end

def record? (c : Collector) (file : Path) (test : String) : Option (Record Float) :=
  c.records.get? (keyOf file test)

def containsText (part whole : String) : Bool := (whole.splitOn part).length != 1

def enhanced? (c : Collector) (file : Path) (test : String) : Option (Record Float) :=
  (c.record? file test).filter fun r => r.signature.any (containsText "analysis:")

def diagnostics? (c : Collector) (file : Path) (test : String) : Option Diagnostics :=
  c.diagnostics.get? (keyOf file test)

def emptyAnalysis : Json := .obj [("imports", .null), ("calls", .null)]

def summary? (c : Collector) (file : Path) (test : String) : Option Json := do
  let r ← c.record? file test
  return .obj [
    ("test_name", .str test),
    ("file_path", .str file.text),
    ("coverage", .obj [
      ("percentage", .float r.percentage),
      ("lines_covered", .nat r.linesCovered),
      ("lines_total", .nat r.linesTotal),
      ("branches_covered", .nat r.branchesCovered),
      ("branches_total", .nat r.branchesTotal)]),
    ("analysis", ((c.diagnostics? file test).map Diagnostics.toJson).getD emptyAnalysis),
    ("signature", .option .str r.signature)]

def clear (c : Collector) : Collector :=
  { c with diagnostics := .empty, importedFiles := [], calledFunctions := .empty }

end Collector

end TestTwins
