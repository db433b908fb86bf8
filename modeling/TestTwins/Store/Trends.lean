import TestTwins.Store.Record

namespace TestTwins

inductive Trend
  | improving
  | declining
  deriving DecidableEq, Repr

def Trend.name : Trend → String
  | improving => "improving"
  | declining => "declining"

def Trend.of (better : Bool) : Trend := if better then .improving else .declining

structure Trends where
  days : Int
  sessionCount : Nat
  averageScore : Float
  totalViolations : Nat
  score : Trend
  violations : Trend

namespace Trends

/-- The development over sessions in order of time; a single session does not develop. The total is the
exact sum: that it may not fit into a word is left out. -/
def ofSessions (days : Int) (sessions : List SessionRecord) : Option Trends :=
  match sessions.head?, sessions.getLast? with
  | some first, some last =>
    let many := 1 < sessions.length
    some {
      days
      sessionCount := sessions.length
      averageScore := FileRecord.mean (sessions.map (·.averageScore))
      totalViolations := (sessions.map (·.violationsFound)).foldr (· + ·) 0
      score := .of (many && first.averageScore < last.averageScore)
      violations := .of (many && last.violationsFound < first.violationsFound) }
  | _, _ => none

def toJson (t : Trends) : Json :=
  .obj [
    ("period_days", .int t.days),
    ("session_count", .nat t.sessionCount),
    ("average_score", .float t.averageScore),
    ("total_violations", .nat t.totalViolations),
    ("score_trend", .str t.score.name),
    ("violation_trend", .str t.violations.name)]

end Trends

end TestTwins
