import TestTwins.Blank
import TestTwins.Coverage.Measurement
import TestTwins.Json.Reader
import TestTwins.Program

/-! Running one test under measurement. A session has a directory of its own, which holds the harness and
the files of each run, and goes away with the session. -/

namespace TestTwins

structure Request where
  file : Path
  test : String
  sources : List Path
  roots : List Path

structure Executor (σ : Type) where
  hasSession : Disk × σ → Bool
  start : StateM (Disk × σ) (Except InstrumentationError Unit)
  stop : StateM (Disk × σ) Unit
  execute : Request → StateM (Disk × σ) (Except InstrumentationError Measurement)

structure Runner where
  python : String
  timeout : Nat
  directory : Option Path
  harness : String
  session : Option Path
  runs : Nat
  sessions : Nat

namespace Runner

def new (python : String) (timeout : Nat) (harness : String) : Runner :=
  ⟨python, timeout, none, harness, none, 0, 0⟩

def withDirectory (r : Runner) (p : Path) : Runner := { r with directory := some p }

def harnessName : String := "drill_sergeant_harness.py"

def sessionPath (n : Nat) : Path := ⟨"/tmp/drill_sergeant_coverage_" ++ toString n⟩

def hasSession (d : Disk) (r : Runner) : Bool := r.session.any d.isDirectory

def stop (d : Disk) (r : Runner) : Disk × Runner :=
  match r.session with
  | some p => (d.removeAll p, { r with session := none })
  | none => (d, r)

def start (d : Disk) (r : Runner) : Except InstrumentationError (Disk × Runner) :=
  let p := sessionPath (r.sessions + 1)
  let made := do (← d.makeDirectories p).write 0 (p.join harnessName) (some r.harness)
  match made with
  | .error e => .error (.sessionStart e.message)
  | .ok d =>
    let (d, r) := stop d r
    .ok (d, { r with session := some p, runs := 0, sessions := r.sessions + 1 })

def runFile (session : Path) (run : Nat) (ending : String) : Path :=
  session.join ("coverage-" ++ toString run ++ ending)

def arguments (r : Runner) (session : Path) (request : Request) : List String :=
  [(session.join harnessName).text, (runFile session r.runs ".dat").text,
   (runFile session r.runs ".json").text, request.file.text, request.test,
   String.intercalate ":" (request.roots.map (·.text))] ++ request.sources.map (·.text)

def lastLine (text : String) : String :=
  let cs := text.toList
  let cs := if cs.getLast? == some '\n' then cs.dropLast else cs
  String.ofList (trimBlank (cs.reverse.takeWhile (· != '\n')).reverse)

def report (d : Disk) (request : Request) (p : Path) : Except InstrumentationError Measurement :=
  match d.readText p with
  | .error e => .error (.malformedOutput (p.text ++ ": " ++ e.message))
  | .ok text =>
    match (Json.parse? text).bind Measurement.decode? with
    | none => .error (.malformedOutput "not a coverage report")
    | some m =>
      match m.loadError with
      | some e => if m.executedCount = 0 then .error (.testLoad request.test e) else .ok m
      | none => .ok m

def complaint (d : Disk) (exit : Exit) (p : Path) : String :=
  let text := (d.readText p).toOption.getD ""
  "exit status " ++ exit.text ++ ": " ++ lastLine text

def launch (d : Disk) (r : Runner) (session : Path) (complaints : Place) (request : Request) :
    Except InstrumentationError Measurement × Disk :=
  match Program.launch d ⟨r.python, r.arguments session request, r.directory, complaints, r.timeout⟩ with
  | .notStarted reason => (.error (.spawn r.python reason), d)
  | .tooLong d => (.error (.timeout request.test r.timeout), d)
  | .ended exit d =>
    if exit.isSuccess then (report d request (runFile session r.runs ".json"), d)
    else (.error (.harnessFailed request.test (complaint d exit (runFile session r.runs ".stderr"))), d)

/-- The first root that cannot be told apart from the others once they are joined. -/
def badRoot? (roots : List Path) : Option Path := roots.find? fun p => p.text.toList.contains ':'

def execute (request : Request) (d : Disk) (r : Runner) :
    Except InstrumentationError Measurement × Disk × Runner :=
  match r.session with
  | none => (.error (.sessionStart "no active coverage session"), d, r)
  | some session =>
    let r := { r with runs := r.runs + 1 }
    let p := runFile session r.runs ".stderr"
    match d.write 0 p (some ""), d.locate p with
    | .ok d, .ok complaints =>
      match badRoot? request.roots with
      | some root =>
        (.error (.harnessFailed request.test ("invalid import root: " ++ root.text)), d, r)
      | none =>
        let (result, d) := launch d r session complaints request
        (result, d, r)
    | .error e, _ | _, .error e => (.error (.sessionStart e.message), d, r)

def executor : Executor Runner where
  hasSession s := hasSession s.1 s.2
  start s :=
    match start s.1 s.2 with
    | .ok s => (.ok (), s)
    | .error e => (.error e, s)
  stop s := ((), Runner.stop s.1 s.2)
  execute request s :=
    let (result, s) := execute request s.1 s.2
    (result, s)

end Runner

end TestTwins
