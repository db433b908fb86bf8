import TestTwins.Cluster
import TestTwins.Error

namespace TestTwins

structure DuplicateSettings where
  exactThreshold : Option Float
  nearThreshold : Option Float
  similarThreshold : Option Float
  minClusterSize : Option Nat
  maxClusterSize : Option Nat
  coverageWeight : Option Float
  mockWeight : Option Float
  exceptionWeight : Option Float
  shapeWeight : Option Float

structure CoverageSettings where
  python : Option String
  timeoutSeconds : Option Nat
  maxParentDepth : Option Nat
  maxSelectedFiles : Option Nat
  maxCandidateFiles : Option Nat

structure StorageSettings where
  path : Option String
  retentionDays : Option Int
  enabled : Option Bool

structure Config where
  duplicates : DuplicateSettings
  coverage : CoverageSettings
  storage : StorageSettings

namespace DuplicateSettings

def empty : DuplicateSettings := ⟨none, none, none, none, none, none, none, none, none⟩

def overlay (upper lower : DuplicateSettings) : DuplicateSettings where
  exactThreshold := upper.exactThreshold <|> lower.exactThreshold
  nearThreshold := upper.nearThreshold <|> lower.nearThreshold
  similarThreshold := upper.similarThreshold <|> lower.similarThreshold
  minClusterSize := upper.minClusterSize <|> lower.minClusterSize
  maxClusterSize := upper.maxClusterSize <|> lower.maxClusterSize
  coverageWeight := upper.coverageWeight <|> lower.coverageWeight
  mockWeight := upper.mockWeight <|> lower.mockWeight
  exceptionWeight := upper.exceptionWeight <|> lower.exceptionWeight
  shapeWeight := upper.shapeWeight <|> lower.shapeWeight

def minSize (s : DuplicateSettings) : Nat := s.minClusterSize.getD 2

def maxSize (s : DuplicateSettings) : Nat := s.maxClusterSize.getD 10

def thresholds (s : DuplicateSettings) : Thresholds Float :=
  let t := Thresholds.standard
  ⟨s.exactThreshold.getD t.exact, s.nearThreshold.getD t.near, s.similarThreshold.getD t.similar⟩

def weights (s : DuplicateSettings) : Weights Float :=
  let w := Weights.standard
  ⟨s.coverageWeight.getD w.coverage, s.mockWeight.getD w.mock, s.exceptionWeight.getD w.exception,
    s.shapeWeight.getD w.shape⟩

def clusters (s : DuplicateSettings) : ClusterConfig Float := ⟨s.thresholds, s.minSize, s.maxSize⟩

def shares (s : DuplicateSettings) : List (String × Option Float) :=
  [("duplicates.exact_duplicate_threshold", s.exactThreshold),
   ("duplicates.near_duplicate_threshold", s.nearThreshold),
   ("duplicates.similar_pattern_threshold", s.similarThreshold),
   ("duplicates.coverage_weight", s.coverageWeight),
   ("duplicates.mock_assertion_weight", s.mockWeight),
   ("duplicates.exception_weight", s.exceptionWeight),
   ("duplicates.structure_weight", s.shapeWeight)]

end DuplicateSettings

namespace CoverageSettings

def empty : CoverageSettings := ⟨none, none, none, none, none⟩

def overlay (upper lower : CoverageSettings) : CoverageSettings where
  python := upper.python <|> lower.python
  timeoutSeconds := upper.timeoutSeconds <|> lower.timeoutSeconds
  maxParentDepth := upper.maxParentDepth <|> lower.maxParentDepth
  maxSelectedFiles := upper.maxSelectedFiles <|> lower.maxSelectedFiles
  maxCandidateFiles := upper.maxCandidateFiles <|> lower.maxCandidateFiles

def interpreter (s : CoverageSettings) : String := s.python.getD "python3"

def timeout (s : CoverageSettings) : Nat := s.timeoutSeconds.getD 60

def parentDepth (s : CoverageSettings) : Nat := s.maxParentDepth.getD 5

def selectedFiles (s : CoverageSettings) : Nat := s.maxSelectedFiles.getD 20

def candidateFiles (s : CoverageSettings) : Nat := s.maxCandidateFiles.getD 50

end CoverageSettings

namespace StorageSettings

def empty : StorageSettings := ⟨none, none, none⟩

def overlay (upper lower : StorageSettings) : StorageSettings where
  path := upper.path <|> lower.path
  retentionDays := upper.retentionDays <|> lower.retentionDays
  enabled := upper.enabled <|> lower.enabled

def root (s : StorageSettings) : String := s.path.getD ".drill-sergeant/coverage"

def retention (s : StorageSettings) : Int := s.retentionDays.getD 30

def isEnabled (s : StorageSettings) : Bool := s.enabled.getD true

end StorageSettings

namespace Config

def empty : Config := ⟨.empty, .empty, .empty⟩

instance : Inhabited Config := ⟨empty⟩

def overlay (upper lower : Config) : Config :=
  ⟨upper.duplicates.overlay lower.duplicates, upper.coverage.overlay lower.coverage,
    upper.storage.overlay lower.storage⟩

def badShare? (shares : List (String × Option Float)) : Option String :=
  (shares.find? fun (_, v) => v.any fun x => !(0 ≤ x && x ≤ 1)).map (·.1)

/-- Refuses settings that make no sense, for the first reason there is. Weights need not add up to
one. -/
def validate (c : Config) : Except ConfigError Unit :=
  match badShare? c.duplicates.shares with
  | some field => .error (.invalid field "must be between 0.0 and 1.0")
  | none =>
    if c.duplicates.minSize < 2 then
      .error (.invalid "duplicates.min_cluster_size" "must be at least 2")
    else if c.duplicates.maxSize < c.duplicates.minSize then
      .error (.invalid "duplicates.max_cluster_size"
        "must be greater than or equal to min_cluster_size")
    else if c.coverage.timeout = 0 then
      .error (.invalid "coverage.timeout_secs" "must be greater than 0")
    else if c.coverage.python = some "" then
      .error (.invalid "coverage.python" "must not be empty")
    else .ok ()

end Config

end TestTwins
