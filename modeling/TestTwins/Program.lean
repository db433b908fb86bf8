import TestTwins.Shell.Run

namespace TestTwins

inductive Exit
  | code (n : Nat)
  | signal (n : Nat)
  deriving DecidableEq, Repr

namespace Exit

def isSuccess (e : Exit) : Bool := e == .code 0

def signalName (n : Nat) : String :=
  match Shell.signalNames.find? (·.2 == n) with
  | some (name, _) => " (SIG" ++ name ++ ")"
  | none => ""

def text : Exit → String
  | code n => "exit status: " ++ toString n
  | signal n => "signal: " ++ toString n ++ signalName n

end Exit

inductive Launch
  | notStarted (reason : String)
  | tooLong (disk : Disk)
  | ended (exit : Exit) (disk : Disk)

structure Invocation where
  program : String
  arguments : List String
  directory : Option Path
  complaints : Place
  milliseconds : Nat

namespace Program

def common : List (String × Nat) :=
  [("true", 0), ("/bin/true", 0), ("/usr/bin/true", 0),
   ("false", 1), ("/bin/false", 1), ("/usr/bin/false", 1)]

def shells : List String := ["sh", "bash", "dash"]

def interpreter? (script : String) : Option String :=
  match script.toList with
  | '#' :: '!' :: rest =>
    let words := Shell.blankParts (String.ofList (rest.takeWhile (· != '\n')))
    match words with
    | [] => none
    | w :: more =>
      if Shell.baseName w == "env" then more.head? else some (Shell.baseName w)
  | _ => none

def script? (d : Disk) (program : String) : Except String String :=
  if !program.toList.contains '/' then .error "no such program"
  else
    match d.file ⟨program⟩ with
    | .error e => .error e.message
    | .ok f =>
      match f.executable, f.text with
      | true, some text =>
        if (interpreter? text).any shells.contains then .ok text else .error "not a program"
      | _, _ => .error "permission denied"

def runScript (d : Disk) (i : Invocation) (script : String) : Launch :=
  let start : Shell.State :=
    ⟨d, i.program, i.arguments, .empty, 0, some "", some "", 0, i.milliseconds⟩
  let streams : Shell.Streams := ⟨.nowhere, .file i.complaints⟩
  match Shell.parse? script with
  | none => .ended (.code 2) d
  | some command =>
    let (result, s) := (Shell.run Shell.patience streams command).run start
    match result with
    | .ok () => .ended (.code s.status) s.disk
    | .error (.exit n) => .ended (.code n) s.disk
    | .error (.signal n) => .ended (.signal n) s.disk
    | .error .tooLong => .tooLong s.disk

def enter (d : Disk) : Option Path → Option Disk
  | none => some d
  | some p =>
    match d.find p with
    | .ok (place, .directory) => some { d with here := place }
    | _ => none

/-- Starts a program and waits for it, but not longer than its time. Without any time it is stopped
before it does anything. -/
def launch (d : Disk) (i : Invocation) : Launch :=
  match enter d i.directory with
  | none => .notStarted "no such directory"
  | some inside =>
    let back (after : Disk) : Disk := { after with here := d.here }
    let result : Launch := match common.lookup i.program with
      | some status => .ended (.code status) inside
      | none =>
        match script? inside i.program with
        | .error reason => .notStarted reason
        | .ok script => runScript inside i script
    match result with
    | .notStarted reason => .notStarted reason
    | .tooLong after => .tooLong (if Shell.endsInTime 0 i.milliseconds then back after else d)
    | .ended exit after =>
      if Shell.endsInTime 0 i.milliseconds then .ended exit (back after) else .tooLong d

end Program

end TestTwins
