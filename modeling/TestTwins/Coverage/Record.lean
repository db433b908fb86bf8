import TestTwins.Error
import TestTwins.Json.Decode
import TestTwins.OrderedSet
import TestTwins.Path
import TestTwins.Scalar

namespace TestTwins

structure Record (K : Type) where
  test : String
  file : Path
  line : Nat
  linesCovered : Nat
  linesTotal : Nat
  branchesCovered : Nat
  branchesTotal : Nat
  percentage : K
  covered : LineSet
  missing : LineSet
  signature : Option String

def percent {K : Type} [Scalar K] (covered total : Nat) : K :=
  if total = 0 then Scalar.zero else Scalar.ratio covered total * Scalar.ofNat 100

structure Branches where
  covered : Nat
  total : Nat

namespace Record

def ofLines {K : Type} [Scalar K] (test : String) (file : Path) (line : Nat) (covered missing : LineSet)
    (branches : Branches) (signature : Option String) : Record K :=
  let missing := missing.sdiff covered
  let total := covered.size + missing.size
  { test, file, line
    linesCovered := covered.size
    linesTotal := total
    branchesCovered := branches.covered
    branchesTotal := branches.total
    percentage := percent covered.size total
    covered, missing, signature }

def empty {K : Type} [Scalar K] (test : String) (file : Path) (line : Nat) : Record K :=
  ofLines test file line .empty .empty ⟨0, 0⟩ none

def withSignature (r : Record K) (signature : String) : Record K :=
  { r with signature := some signature }

def isEmpty (r : Record K) : Bool := r.linesTotal == 0

def tolerance : Float := 0.1

def agrees (a b : Record Float) : Bool :=
  a.test == b.test && a.file.same b.file && a.line == b.line &&
    a.linesCovered == b.linesCovered && a.linesTotal == b.linesTotal &&
    a.branchesCovered == b.branchesCovered && a.branchesTotal == b.branchesTotal &&
    (a.percentage - b.percentage).abs < tolerance &&
    a.covered == b.covered && a.missing == b.missing

def toJson (r : Record Float) : Json :=
  .obj [
    ("test_name", .str r.test),
    ("file_path", .str r.file.text),
    ("line_number", .nat r.line),
    ("lines_covered", .nat r.linesCovered),
    ("lines_total", .nat r.linesTotal),
    ("branches_covered", .nat r.branchesCovered),
    ("branches_total", .nat r.branchesTotal),
    ("coverage_percentage", .float r.percentage),
    ("covered_lines", .nats r.covered.toList),
    ("missing_lines", .nats r.missing.toList),
    ("coverage_signature", .option .str r.signature)]

def fields : List (String × Json.Presence) :=
  [("test_name", .required), ("file_path", .required), ("line_number", .required),
   ("lines_covered", .required), ("lines_total", .required), ("branches_covered", .required),
   ("branches_total", .required), ("coverage_percentage", .required), ("covered_lines", .required),
   ("missing_lines", .required), ("coverage_signature", .defaulted)]

def asLineSet (j : Json) : Option LineSet := (j.asList Json.asLine).map .ofList

def decode? (j : Json) : Option (Record Float) := do
  let ms ← j.members fields
  return {
    test := ← ms.field "test_name" Json.asString
    file := ⟨← ms.field "file_path" Json.asString⟩
    line := ← ms.field "line_number" Json.asLine
    linesCovered := ← ms.field "lines_covered" Json.asWord
    linesTotal := ← ms.field "lines_total" Json.asWord
    branchesCovered := ← ms.field "branches_covered" Json.asWord
    branchesTotal := ← ms.field "branches_total" Json.asWord
    percentage := ← ms.field "coverage_percentage" Json.asFloat
    covered := ← ms.field "covered_lines" asLineSet
    missing := ← ms.field "missing_lines" asLineSet
    signature := ← ms.fieldD "coverage_signature" (Json.asOption Json.asString) none }

def undecodable : String := "not a coverage record"

/-- No line both ran and is missing, and lines are counted from one. -/
def ofJson (j : Json) : Except AnalysisError (Record Float) :=
  match decode? j with
  | none => .error (.invalidRecord undecodable)
  | some r =>
    if r.covered.toList.any (· ∈ r.missing) then
      .error (.invalidRecord "covered_lines and missing_lines overlap")
    else if 0 ∈ r.covered || 0 ∈ r.missing then
      .error (.invalidRecord "line numbers must be positive")
    else .ok r

end Record

end TestTwins
