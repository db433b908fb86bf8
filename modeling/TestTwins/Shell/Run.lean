import TestTwins.Disk
import TestTwins.Decimal
import TestTwins.Shell.Arithmetic
import TestTwins.Shell.Syntax
import TestTwins.Table

/-! Running scripts on a disk. A script writes files, tells where its output goes, and ends with a status
or by a signal; the time it sleeps is counted, and it has to end in a given time. -/

namespace TestTwins.Shell

abbrev Output := Option String

def Output.append (a b : Output) : Output := do return (← a) ++ (← b)

inductive Sink
  | nowhere
  | file (place : Place)
  | word
  deriving DecidableEq, Repr

structure Streams where
  out : Sink
  err : Sink

inductive Ending
  | exit (status : Nat)
  | signal (number : Nat)
  | tooLong
  deriving DecidableEq, Repr

structure State where
  disk : Disk
  name : String
  arguments : List String
  bindings : Table String String
  status : Nat
  written : Output
  input : Output
  elapsed : Nat
  limit : Nat

abbrev Run := ExceptT Ending (StateM State)

def ownNumber : String := "4242"

def appendFile (d : Disk) (place : Place) (text : Output) : Disk :=
  match d.entry? place with
  | some (.file f) => d.setEntry place (.file { f with text := Output.append f.text text })
  | _ => d.setEntry place (.file ⟨text, false, 0⟩)

def emit (sink : Sink) (text : Output) : Run Unit :=
  match sink with
  | .nowhere => return ()
  | .word => modify fun s => { s with written := s.written.append text }
  | .file place =>
    if text == some "" then return ()
    else modify fun s => { s with disk := appendFile s.disk place text }

def valueOf (s : State) (name : String) : String :=
  let (name, default) := match name.splitOn ":-" with
    | [name, default] => (name, default)
    | _ => (name, "")
  let value :=
    if name == "#" then toString s.arguments.length
    else if name == "?" then toString s.status
    else if name == "$" then ownNumber
    else if name == "@" || name == "*" then String.intercalate " " s.arguments
    else if name == "0" then s.name
    else match name.toNat? with
      | some n => (s.arguments[n - 1]?).getD ""
      | none =>
        if name == "PWD" then (Disk.pathOf s.disk.here).text else (s.bindings.get? name).getD ""
  if value == "" then default else value

structure Fields where
  complete : List String
  current : Option String

namespace Fields

def extend (f : Fields) (s : String) : Fields := { f with current := some (f.current.getD "" ++ s) }

def close (f : Fields) : Fields := ⟨f.complete ++ f.current.toList, none⟩

def spread (f : Fields) : List String → Fields
  | [] => f
  | [s] => f.extend s
  | s :: rest => spread (f.extend s).close rest

def toList (f : Fields) : List String := f.close.complete

end Fields

def blankParts (s : String) : List String :=
  ((s.splitToList fun c => c == ' ' || c == '\t' || c == '\n').filter (· != ""))

def trimmed (s : String) : String := String.ofList (s.toList.reverse.dropWhile (· == '\n')).reverse

def numberText (s : State) (term : String) : String :=
  let value (name : String) : Int := (valueOf s name).toInt?.getD 0
  ((Arithmetic.eval? value term.toList).map toString).getD ""

def fields (output : String → Run String) (w : Word) : Run (List String) := do
  let f ← w.foldlM (fun (f : Fields) p => do
    match p with
    | .text s => return f.extend s
    | .parameter "@" true => return f.spread (← get).arguments
    | .number term => return f.extend (numberText (← get) term)
    | .parameter name true => return f.extend (valueOf (← get) name)
    | .parameter name false => return f.spread (blankParts (valueOf (← get) name))
    | .output script true => return f.extend (← output script)
    | .output script false => return f.spread (blankParts (← output script))) ⟨[], none⟩
  return f.toList

def single (output : String → Run String) (w : Word) : Run String := do
  let parts ← w.mapM fun p => do
    match p with
    | .text s => pure s
    | .number term => return numberText (← get) term
    | .parameter name _ => return valueOf (← get) name
    | .output script _ => output script
  return String.join parts

structure Result where
  out : Output
  err : Output
  status : Nat

def Result.ok (out : Output) : Result := ⟨out, some "", 0⟩

def Result.failed (message : String) : Result := ⟨some "", some (message ++ "\n"), 1⟩

def Result.silent (success : Bool) : Result := ⟨some "", some "", if success then 0 else 1⟩

def isOctal (c : Char) : Bool := '0' ≤ c && c ≤ '7'

def ofByte (n : Nat) : Option Char := if n < 128 then some (Char.ofNat n) else none

def escape : List Char → Option Char × List Char
  | 'n' :: rest => (some '\n', rest)
  | 't' :: rest => (some '\t', rest)
  | 'r' :: rest => (some '\r', rest)
  | '\\' :: rest => (some '\\', rest)
  | '"' :: rest => (some '"', rest)
  | cs =>
    let ds := (cs.take 3).takeWhile isOctal
    if ds.isEmpty then (some '\\', cs)
    else (ofByte (ds.foldl (fun n c => 8 * n + Decimal.digitValue c) 0), cs.drop ds.length)

def unescape : Nat → List Char → List (Option Char)
  | 0, _ => []
  | _, [] => []
  | n + 1, '\\' :: rest =>
    let (c, rest) := escape rest
    c :: unescape n rest
  | n + 1, c :: rest => some c :: unescape n rest

def outputOf (cs : List (Option Char)) : Output := (cs.mapM id).map String.ofList

def formatOnce : Nat → List Char → List String → List (Option Char) × List String
  | 0, _, ws => ([], ws)
  | _, [], ws => ([], ws)
  | n + 1, '%' :: '%' :: rest, ws =>
    let (cs, ws) := formatOnce n rest ws
    (some '%' :: cs, ws)
  | n + 1, '%' :: c :: rest, ws =>
    if "sdiub".toList.contains c then
      let shown := if c == 's' || c == 'b' then ws.head?.getD "" else ws.head?.getD "0"
      let (cs, ws) := formatOnce n rest (ws.drop 1)
      (shown.toList.map some ++ cs, ws)
    else
      let (cs, ws) := formatOnce n (c :: rest) ws
      (some '%' :: cs, ws)
  | n + 1, '\\' :: rest, ws =>
    let (c, rest) := escape rest
    let (cs, ws) := formatOnce n rest ws
    (c :: cs, ws)
  | n + 1, c :: rest, ws =>
    let (cs, ws) := formatOnce n rest ws
    (some c :: cs, ws)

/-- The format is used again while it takes words and there are some left. -/
def format (form : List Char) : Nat → List String → List (Option Char)
  | 0, _ => []
  | n + 1, ws =>
    let (cs, rest) := formatOnce form.length form ws
    if rest.isEmpty || rest.length == ws.length then cs else cs ++ format form n rest

def echo (ws : List String) : Result :=
  let (plain, ws) := match ws with
    | "-n" :: ws => (true, ws)
    | ws => (false, ws)
  let text := (String.intercalate " " ws).toList
  .ok (outputOf (unescape text.length text ++ if plain then [] else [some '\n']))

def readFile (d : Disk) (p : String) : Except DiskError Output :=
  if p == "/dev/null" then .ok (some "") else do return (← d.file ⟨p⟩).text

def cat (s : State) (ws : List String) : Result :=
  if ws.isEmpty then .ok s.input
  else ws.foldl (fun r w =>
    match if w == "-" then .ok s.input else readFile s.disk w with
    | .ok text => { r with out := r.out.append text }
    | .error _ =>
      { r with err := r.err.append (some ("cat: " ++ w ++ ": No such file or directory\n")),
               status := 1 }) (.ok (some ""))

def compareNumbers (operator : String) (a b : Int) : Option Bool :=
  match operator with
  | "-eq" => some (a == b)
  | "-ne" => some (a != b)
  | "-gt" => some (b < a)
  | "-ge" => some (b ≤ a)
  | "-lt" => some (a < b)
  | "-le" => some (a ≤ b)
  | _ => none

def test (d : Disk) : List String → Bool
  | [] => false
  | ["!", a] => a == ""
  | "!" :: rest => !test d rest
  | [a] => a != ""
  | ["-n", a] => a != ""
  | ["-z", a] => a == ""
  | ["-f", a] => d.isFile ⟨a⟩
  | ["-d", a] => d.isDirectory ⟨a⟩
  | ["-e", a] => d.isFile ⟨a⟩ || d.isDirectory ⟨a⟩
  | ["-s", a] => ((d.file ⟨a⟩).toOption.any fun f => f.text != some "")
  | [a, "=", b] => a == b
  | [a, "!=", b] => a != b
  | [a, operator, b] =>
    match a.toInt?, b.toInt? with
    | some m, some n => (compareNumbers operator m n).getD false
    | _, _ => false
  | _ => false

def milliseconds (text : String) : Nat :=
  match text.splitOn "." with
  | [whole] => (whole.toNat?.getD 0) * 1000
  | [whole, places] =>
    let ds := (places.toList ++ ['0', '0', '0']).take 3
    (whole.toNat?.getD 0) * 1000 + Decimal.ofDigits ds
  | _ => 0

def signalNames : List (String × Nat) :=
  [("HUP", 1), ("INT", 2), ("QUIT", 3), ("ABRT", 6), ("KILL", 9), ("USR1", 10), ("SEGV", 11),
   ("USR2", 12), ("PIPE", 13), ("ALRM", 14), ("TERM", 15)]

def signalOf? (text : String) : Option Nat :=
  let name := if text.startsWith "SIG" then String.ofList (text.toList.drop 3) else text
  text.toNat? <|> signalNames.lookup name

def kill (ws : List String) : Run Result := do
  let (signal, targets) := match ws with
    | "-s" :: name :: rest => (signalOf? name, rest)
    | first :: rest =>
      if first.startsWith "-" then (signalOf? (String.ofList (first.toList.drop 1)), rest)
      else (some 15, first :: rest)
    | [] => (none, [])
  match signal with
  | some n => if targets.contains ownNumber && n != 0 then throw (.signal n) else return .silent false
  | none => return .silent false

def baseName (text : String) : String :=
  match (⟨text⟩ : Path).names.getLast? with
  | some name => name
  | none => if text == "" then "" else "/"

def withoutEnd (text ending : String) : String :=
  if text != ending && text.endsWith ending then
    String.ofList (text.toList.take (text.length - ending.length))
  else text

def pollInterval : Nat := 20

/-- Whether something that takes so long is seen to end before its time is over. Time is only looked at
when a poll finds it still running. -/
def endsInTime (elapsed limit : Nat) : Bool :=
  (max 1 ((elapsed + pollInterval - 1) / pollInterval) - 1) * pollInterval < limit

def sleep (text : String) : Run Result := do
  modify fun s => { s with elapsed := s.elapsed + milliseconds text }
  let s ← get
  if endsInTime s.elapsed s.limit then return .ok (some "") else throw .tooLong

def changeDisk (f : Disk → Except DiskError Disk) : Run Result := do
  match f (← get).disk with
  | .ok d =>
    modify fun s => { s with disk := d }
    return .ok (some "")
  | .error e => return .failed e.message

def withoutOptions (ws : List String) : List String := ws.filter fun w => !w.startsWith "-"

def changeDirectory (text : String) : Run Result := do
  match (← get).disk.find ⟨text⟩ with
  | .ok (place, .directory) =>
    modify fun s => { s with disk := { s.disk with here := place } }
    return .ok (some "")
  | _ => return .failed ("cd: can not cd to " ++ text)

def touch (d : Disk) (p : String) : Except DiskError Disk :=
  if d.isFile ⟨p⟩ then .ok d else d.write 0 ⟨p⟩ (some "")

def builtIn (name : String) (ws : List String) : Run Result := do
  let s ← get
  match name with
  | ":" | "true" | "export" | "umask" | "trap" | "wait" => return .ok (some "")
  | "false" => return .silent false
  | "echo" => return echo ws
  | "printf" =>
    let form := (ws.head?.getD "").toList
    return .ok (outputOf (format form (ws.length + 1) (ws.drop 1)))
  | "cat" => return cat s ws
  | "test" => return .silent (test s.disk ws)
  | "[" => return .silent (test s.disk ws.dropLast)
  | "exit" => throw (.exit (((ws.head?.bind String.toNat?).getD s.status) % 256))
  | "sleep" => sleep (ws.head?.getD "0")
  | "kill" => kill ws
  | "basename" =>
    return .ok (some (withoutEnd (baseName (ws.head?.getD "")) ((ws.drop 1).head?.getD "") ++ "\n"))
  | "dirname" =>
    let parent := ((⟨ws.head?.getD ""⟩ : Path).parent?.map (·.text)).getD "/"
    return .ok (some ((if parent == "" then "." else parent) ++ "\n"))
  | "pwd" => return .ok (some ((Disk.pathOf s.disk.here).text ++ "\n"))
  | "cd" => changeDirectory (ws.head?.getD "/")
  | "touch" => changeDisk fun d => ws.foldlM touch d
  | "mkdir" => changeDisk fun d => (withoutOptions ws).foldlM (fun d p => d.makeDirectories ⟨p⟩) d
  | "rm" => changeDisk fun d => .ok ((withoutOptions ws).foldl (fun d p => d.removeAll ⟨p⟩) d)
  | "shift" =>
    set { s with arguments := s.arguments.drop ((ws.head?.bind String.toNat?).getD 1) }
    return .ok (some "")
  | "set" =>
    match ws with
    | "--" :: rest => set { s with arguments := rest }
    | _ => pure ()
    return .ok (some "")
  | _ => return ⟨some "", some (s.name ++ ": 1: " ++ name ++ ": not found\n"), 127⟩

def setStatus (n : Nat) : Run Unit := modify fun s => { s with status := n }

def Streams.get (s : Streams) (n : Nat) : Sink :=
  if n == 1 then s.out else if n == 2 then s.err else .nowhere

def Streams.set (s : Streams) (n : Nat) (sink : Sink) : Streams :=
  if n == 1 then { s with out := sink } else if n == 2 then { s with err := sink } else s

def openTarget (append : Bool) (streams : Streams) (target : String) : Run (Option Sink) := do
  if target == "/dev/null" then return some .nowhere
  else if target == "/dev/stderr" then return some streams.err
  else
    let s ← get
    match s.disk.locate ⟨target⟩ with
    | .error _ => return none
    | .ok place =>
      if append && s.disk.isFile ⟨target⟩ then return some (.file place)
      else match s.disk.write 0 ⟨target⟩ (some "") with
        | .ok d =>
          set { s with disk := d }
          return some (.file place)
        | .error _ => return none

def redirect (output : String → Run String) (streams : Streams) :
    List Redirect → Run (Option Streams)
  | [] => return some streams
  | .copy stream other :: rest => redirect output (streams.set stream (streams.get other)) rest
  | .write stream append target :: rest => do
    match ← openTarget append streams (← single output target) with
    | some sink => redirect output (streams.set stream sink) rest
    | none => return none
  | .read source :: rest => do
    let source ← single output source
    match readFile (← get).disk source with
    | .ok text =>
      modify fun s => { s with input := text }
      redirect output streams rest
    | .error _ => return none
  | .here text :: rest => do
    let text ← single output text
    modify fun s => { s with input := some text }
    redirect output streams rest

def runWords (streams : Streams) (ws : List String) : Run Unit := do
  match ws with
  | [] => setStatus 0
  | "exec" :: name :: rest =>
    let r ← builtIn name rest
    emit streams.out r.out
    emit streams.err r.err
    throw (.exit r.status)
  | name :: rest =>
    let r ← builtIn name rest
    emit streams.out r.out
    emit streams.err r.err
    setStatus r.status

def captured (run : Run Unit) : Run String := do
  let before ← get
  set { before with written := some "" }
  let ending ← tryCatch (do run; return none) fun e => return some e
  let after ← get
  let status := match ending with
    | some (.exit n) => n
    | _ => after.status
  set { before with
    disk := { after.disk with here := before.disk.here }, elapsed := after.elapsed, status := status }
  match ending with
  | some .tooLong => throw .tooLong
  | some (.signal n) => throw (.signal n)
  | _ => return trimmed (after.written.getD "")

/-- Runs a command. The first argument bounds how long loops and nested commands go on. -/
def run : Nat → Streams → Command → Run Unit
  | 0, _, _ => throw .tooLong
  | n + 1, streams, command => do
    let output (script : String) : Run String :=
      match parse? script with
      | some c => captured (run n { streams with out := .word } c)
      | none => return ""
    match command with
    | .nothing => return ()
    | .simple assignments words =>
      assignments.forM fun (name, w) => do
        let value ← single output w
        modify fun s => { s with bindings := s.bindings.insert name value }
      let ws ← words.mapM (fields output)
      runWords streams ws.flatten
    | .redirected c redirects =>
      let input := (← get).input
      match ← redirect output streams redirects with
      | none => setStatus 2
      | some streams => run n streams c
      modify fun s => { s with input := input }
    | .sequence a b =>
      run n streams a
      run n streams b
    | .both a b =>
      run n streams a
      if (← get).status == 0 then run n streams b
    | .either a b =>
      run n streams a
      if (← get).status != 0 then run n streams b
    | .pipe a b =>
      let input := (← get).input
      let text ← captured (run n { streams with out := .word } a)
      modify fun s => { s with input := some (text ++ "\n") }
      run n streams b
      modify fun s => { s with input := input }
    | .negate c =>
      run n streams c
      setStatus (if (← get).status == 0 then 1 else 0)
    | .choose condition yes no =>
      run n streams condition
      if (← get).status == 0 then run n streams yes
      else
        setStatus 0
        run n streams no
    | .loop condition wanted body =>
      run n streams condition
      if ((← get).status == 0) == wanted then
        run n streams body
        run n streams (.loop condition wanted body)
      else setStatus 0
    | .each name words body =>
      let ws ← words.mapM (fields output)
      ws.flatten.forM fun value => do
        modify fun s => { s with bindings := s.bindings.insert name value }
        run n streams body

/-- How many commands deep a script may go before it counts as one that never ends. -/
def patience : Nat := 5000

end TestTwins.Shell
