import TestTwins.Coverage.Record
import TestTwins.Digest
import TestTwins.Disk
import TestTwins.Table

namespace TestTwins

structure FileLines where
  executable : LineSet
  executed : LineSet
  arcs : Nat

structure Measurement where
  files : Table String FileLines
  testFound : Bool
  testError : Option String
  loadError : Option String

namespace FileLines

def fields : List (String × Json.Presence) :=
  [("executable", .required), ("executed", .required), ("arcs", .defaulted)]

def decode? (j : Json) : Option FileLines := do
  let ms ← j.members fields
  return ⟨← ms.field "executable" Record.asLineSet, ← ms.field "executed" Record.asLineSet,
    ← ms.fieldD "arcs" Json.asWord 0⟩

def covered (f : FileLines) : LineSet := f.executable.inter f.executed

def missing (f : FileLines) : LineSet := f.executable.sdiff f.executed

end FileLines

namespace Measurement

def empty : Measurement := ⟨.empty, false, none, none⟩

def fields : List (String × Json.Presence) :=
  [("files", .required), ("test_found", .defaulted), ("test_error", .defaulted),
   ("load_error", .defaulted)]

def decodeFiles : Json → Option (Table String FileLines)
  | .obj members => do
    let entries ← members.mapM fun (k, j) => do return (k, ← FileLines.decode? j)
    return .ofList entries
  | _ => none

def decode? (j : Json) : Option Measurement := do
  let ms ← j.members fields
  return ⟨← ms.field "files" decodeFiles, ← ms.fieldD "test_found" Json.asBool false,
    ← ms.fieldD "test_error" (Json.asOption Json.asString) none,
    ← ms.fieldD "load_error" (Json.asOption Json.asString) none⟩

def executedCount (m : Measurement) : Nat :=
  (m.files.values.map (·.executed.size)).foldr (· + ·) 0

def lookup (m : Measurement) (d : Disk) (source : Path) : Option FileLines :=
  match m.files.get? source.text with
  | some f => some f
  | none => (d.canonical? source).bind fun p => m.files.get? p.text

end Measurement

def joinLines (lines : LineSet) : String :=
  String.intercalate "," (lines.toList.map fun n => toString n)

def lineHash (lines : LineSet) : String := Digest.short (joinLines lines)

namespace Record

variable {K : Type} [Scalar K]

def sourcePart (source : Path) : Option FileLines → String
  | some f => source.fileName?.getD "" ++ ":" ++ toString f.covered.size
  | none => source.fileName?.getD "" ++ ":0"

def unionAll (sets : List LineSet) : LineSet := sets.foldl OrderedSet.union .empty

/-- The record of a test from the lines of its sources. Every branch taken counts as covered; that the sum
of the branches may not fit into a word is left out. -/
def ofSources (lookup : Path → Option FileLines) (file : Path) (test : String) (line : Nat)
    (sources : List Path) : Record K :=
  let measured := sources.filterMap lookup
  let covered := unionAll (measured.map FileLines.covered)
  let missing := unionAll (measured.map FileLines.missing)
  let arcs := (measured.map FileLines.arcs).foldr (· + ·) 0
  let parts := sources.map fun s => sourcePart s (lookup s)
  let parts := if covered.isEmpty then parts else parts ++ ["coverage:" ++ lineHash covered]
  ofLines test file line covered missing ⟨arcs, arcs⟩ (some (String.intercalate "|" parts))

end Record

end TestTwins
