import TestTwins.Coverage.Fingerprint
import TestTwins.Moment

namespace TestTwins

structure SessionRecord where
  id : String
  timestamp : Moment
  totalTests : Nat
  averageScore : Float
  coverageFiles : Nat
  violationsFound : Nat
  duration : String
  config : Json

structure TestScore where
  score : Float
  grade : String
  efficiency : String

structure TestRecord where
  test : String
  file : String
  score : TestScore
  percentage : Float
  hash : String
  covered : List Nat
  missing : List Nat
  violations : List String
  timestamp : Moment
  session : String

structure FileRecord where
  file : String
  totalCoverage : Float
  tests : List String
  scores : List Float
  averageScore : Float
  updated : Moment
  session : String

structure SignatureRecord where
  test : String
  hash : String
  vector : List Float
  pattern : String
  timestamp : Moment
  session : String

def Moment.toJson (m : Moment) : Json := .str m.text

def Moment.ofJson? : Json → Option Moment
  | .str s => Moment.ofLooseText? s
  | _ => none

def Json.floats (xs : List Float) : Json := .arr (xs.map .float)

namespace SessionRecord

def toJson (r : SessionRecord) : Json :=
  .obj [
    ("session_id", .str r.id),
    ("timestamp", r.timestamp.toJson),
    ("total_tests", .nat r.totalTests),
    ("average_score", .float r.averageScore),
    ("coverage_files", .nat r.coverageFiles),
    ("violations_found", .nat r.violationsFound),
    ("duration", .str r.duration),
    ("config", r.config.normal)]

def fields : List (String × Json.Presence) :=
  [("session_id", .required), ("timestamp", .required), ("total_tests", .required),
   ("average_score", .required), ("coverage_files", .required), ("violations_found", .required),
   ("duration", .required), ("config", .defaulted)]

def ofJson? (j : Json) : Option SessionRecord := do
  let ms ← j.members fields
  return {
    id := ← ms.field "session_id" Json.asString
    timestamp := ← ms.field "timestamp" Moment.ofJson?
    totalTests := ← ms.field "total_tests" Json.asWord
    averageScore := ← ms.field "average_score" Json.asFloat
    coverageFiles := ← ms.field "coverage_files" Json.asWord
    violationsFound := ← ms.field "violations_found" Json.asWord
    duration := ← ms.field "duration" Json.asString
    config := ← ms.fieldD "config" (fun j => some j.normal) .null }

end SessionRecord

namespace TestRecord

def ofCoverage (r : Record Float) (score : TestScore) (violations : List String) (session : String)
    (now : Moment) : TestRecord where
  test := r.test
  file := r.file.text
  score := score
  percentage := r.percentage
  hash := (Fingerprint.ofRecord r).hash
  covered := r.covered.toList
  missing := r.missing.toList
  violations := violations
  timestamp := now
  session := session

def toJson (r : TestRecord) : Json :=
  .obj [
    ("test_name", .str r.test),
    ("test_file", .str r.file),
    ("score", .float r.score.score),
    ("grade", .str r.score.grade),
    ("efficiency_level", .str r.score.efficiency),
    ("coverage_percentage", .float r.percentage),
    ("signature_hash", .str r.hash),
    ("covered_lines", .nats r.covered),
    ("missing_lines", .nats r.missing),
    ("violations", .strings r.violations),
    ("timestamp", r.timestamp.toJson),
    ("session_id", .str r.session)]

def fields : List (String × Json.Presence) :=
  [("test_name", .required), ("test_file", .required), ("score", .required), ("grade", .required),
   ("efficiency_level", .required), ("coverage_percentage", .required),
   ("signature_hash", .required), ("covered_lines", .defaulted), ("missing_lines", .defaulted),
   ("violations", .defaulted), ("timestamp", .required), ("session_id", .required)]

def ofJson? (j : Json) : Option TestRecord := do
  let ms ← j.members fields
  return {
    test := ← ms.field "test_name" Json.asString
    file := ← ms.field "test_file" Json.asString
    score := ⟨← ms.field "score" Json.asFloat, ← ms.field "grade" Json.asString,
      ← ms.field "efficiency_level" Json.asString⟩
    percentage := ← ms.field "coverage_percentage" Json.asFloat
    hash := ← ms.field "signature_hash" Json.asString
    covered := ← ms.fieldD "covered_lines" (Json.asList Json.asLine) []
    missing := ← ms.fieldD "missing_lines" (Json.asList Json.asLine) []
    violations := ← ms.fieldD "violations" (Json.asList Json.asString) []
    timestamp := ← ms.field "timestamp" Moment.ofJson?
    session := ← ms.field "session_id" Json.asString }

end TestRecord

namespace FileRecord

def mean (scores : List Float) : Float :=
  if scores.isEmpty then 0 else Fingerprint.sum scores / scores.length.toUInt64.toFloat

def new (file : Path) (totalCoverage : Float) (tests : List String) (scores : List Float)
    (session : String) (now : Moment) : FileRecord :=
  ⟨file.text, totalCoverage, tests, scores, mean scores, now, session⟩

def toJson (r : FileRecord) : Json :=
  .obj [
    ("file_path", .str r.file),
    ("total_coverage", .float r.totalCoverage),
    ("tests_covering", .strings r.tests),
    ("scores", .floats r.scores),
    ("average_score", .float r.averageScore),
    ("last_updated", r.updated.toJson),
    ("session_id", .str r.session)]

def fields : List (String × Json.Presence) :=
  [("file_path", .required), ("total_coverage", .required), ("tests_covering", .defaulted),
   ("scores", .defaulted), ("average_score", .required), ("last_updated", .required),
   ("session_id", .required)]

def ofJson? (j : Json) : Option FileRecord := do
  let ms ← j.members fields
  return {
    file := ← ms.field "file_path" Json.asString
    totalCoverage := ← ms.field "total_coverage" Json.asFloat
    tests := ← ms.fieldD "tests_covering" (Json.asList Json.asString) []
    scores := ← ms.fieldD "scores" (Json.asList Json.asFloat) []
    averageScore := ← ms.field "average_score" Json.asFloat
    updated := ← ms.field "last_updated" Moment.ofJson?
    session := ← ms.field "session_id" Json.asString }

end FileRecord

namespace SignatureRecord

def ofFingerprint (f : Fingerprint) (session : String) (now : Moment) : SignatureRecord :=
  ⟨f.test, f.hash, f.vector, f.pattern, now, session⟩

def members (r : SignatureRecord) : List (String × Json) :=
  [("test_name", .str r.test),
   ("signature_hash", .str r.hash),
   ("signature_vector", .floats r.vector),
   ("signature_pattern", .str r.pattern),
   ("timestamp", r.timestamp.toJson),
   ("session_id", .str r.session)]

def toJson (r : SignatureRecord) : Json := .obj r.members

def fields : List (String × Json.Presence) :=
  [("test_name", .required), ("signature_hash", .required), ("signature_vector", .defaulted),
   ("signature_pattern", .required), ("timestamp", .required), ("session_id", .required)]

def ofJson? (j : Json) : Option SignatureRecord := do
  let ms ← j.members fields
  return {
    test := ← ms.field "test_name" Json.asString
    hash := ← ms.field "signature_hash" Json.asString
    vector := ← ms.fieldD "signature_vector" (Json.asList Json.asFloat) []
    pattern := ← ms.field "signature_pattern" Json.asString
    timestamp := ← ms.field "timestamp" Moment.ofJson?
    session := ← ms.field "session_id" Json.asString }

def listToJson (rs : List SignatureRecord) : Json := .obj [("signatures", .arr (rs.map toJson))]

def listOfJson? (j : Json) : Option (List SignatureRecord) := do
  let ms ← j.members [("signatures", .defaulted)]
  ms.fieldD "signatures" (Json.asList ofJson?) []

end SignatureRecord

end TestTwins
