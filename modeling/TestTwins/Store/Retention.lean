import TestTwins.Disk
import TestTwins.Moment

namespace TestTwins

structure RetentionReport where
  sessions : Nat
  tests : Nat
  deriving DecidableEq, Repr

namespace RetentionReport

def empty : RetentionReport := ⟨0, 0⟩

def total (r : RetentionReport) : Nat := r.sessions + r.tests

end RetentionReport

namespace Retention

def isOlder (d : Disk) (cutoff : Moment) (p : Path) : Bool :=
  match d.file p with
  | .ok f => !cutoff.le (.ofNanos f.modified)
  | .error _ => false

def removeIfExpired (refused : Path → Bool) (cutoff : Moment) (directory : Path) (pass : Disk × Nat)
    (name : String) : Disk × Nat :=
  let p := directory.join name
  if (Path.splitName name).2 == some "json" && isOlder pass.1 cutoff p && !refused p then
    match pass.1.remove p with
    | .ok d => (d, pass.2 + 1)
    | .error _ => pass
  else pass

def removeExpired (refused : Path → Bool) (d : Disk) (cutoff : Moment) (directory : Path) : Disk × Nat :=
  match d.list directory with
  | .ok names => names.foldl (removeIfExpired refused cutoff directory) (d, 0)
  | .error _ => (d, 0)

/-- The moment before which records are expired; without a positive number of days there is none. -/
def cutoff? (now : Int) (days : Int) : Option Moment :=
  if days ≤ 0 then none else (Moment.ofNanos now).daysBefore? days

def enforceUnless (refused : Path → Bool) (d : Disk) (now : Int) (sessions tests : Path) (days : Int) :
    Disk × RetentionReport :=
  match cutoff? now days with
  | none => (d, .empty)
  | some cutoff =>
    let (d, removedSessions) := removeExpired refused d cutoff sessions
    let (d, removedTests) := removeExpired refused d cutoff tests
    (d, ⟨removedSessions, removedTests⟩)

def enforce (d : Disk) (now : Int) (sessions tests : Path) (days : Int) : Disk × RetentionReport :=
  enforceUnless (fun _ => false) d now sessions tests days

end Retention

end TestTwins
