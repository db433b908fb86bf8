import TestTwins.Config
import TestTwins.Json.Decode
import TestTwins.Toml.Printer
import TestTwins.Toml.Reader

namespace TestTwins

namespace Toml

def asString : Toml → Option String
  | .string s => some s
  | _ => none

def asBool : Toml → Option Bool
  | .boolean b => some b
  | _ => none

def asInt : Toml → Option Int
  | .integer n => some n
  | _ => none

def asNat : Toml → Option Nat
  | .integer (.ofNat n) => some n
  | _ => none

def asFloat : Toml → Option Float
  | .float x => some x
  | .integer n => some (Json.ofInt n)
  | _ => none

def sectionEntries (names : List String) : Toml → Option Entries
  | .inline es | .header es | .implied es | .dotted es => some es
  | .datetime => some []
  | .array items => some (names.zip items)
  | .series tables => some (names.zip (tables.map .header))
  | _ => none

def setting (es : Entries) (name : String) (decode : Toml → Option α) : Option (Option α) :=
  match es.lookup name with
  | some v => (decode v).map some
  | none => some none

end Toml

namespace DuplicateSettings

def names : List String :=
  ["exact_duplicate_threshold", "near_duplicate_threshold", "similar_pattern_threshold",
   "min_cluster_size", "max_cluster_size", "coverage_weight", "mock_assertion_weight",
   "exception_weight", "structure_weight"]

def ofToml? (t : Toml) : Option DuplicateSettings := do
  let es ← t.sectionEntries names
  return {
    exactThreshold := ← Toml.setting es "exact_duplicate_threshold" Toml.asFloat
    nearThreshold := ← Toml.setting es "near_duplicate_threshold" Toml.asFloat
    similarThreshold := ← Toml.setting es "similar_pattern_threshold" Toml.asFloat
    minClusterSize := ← Toml.setting es "min_cluster_size" Toml.asNat
    maxClusterSize := ← Toml.setting es "max_cluster_size" Toml.asNat
    coverageWeight := ← Toml.setting es "coverage_weight" Toml.asFloat
    mockWeight := ← Toml.setting es "mock_assertion_weight" Toml.asFloat
    exceptionWeight := ← Toml.setting es "exception_weight" Toml.asFloat
    shapeWeight := ← Toml.setting es "structure_weight" Toml.asFloat }

end DuplicateSettings

def settingLine (name : String) (encode : α → Toml) (value : Option α) : Toml.Entries :=
  (value.map fun v => (name, encode v)).toList

def natToml (n : Nat) : Toml := .integer n

namespace DuplicateSettings

def entries (s : DuplicateSettings) : Toml.Entries :=
  settingLine "exact_duplicate_threshold" .float s.exactThreshold ++
  settingLine "near_duplicate_threshold" .float s.nearThreshold ++
  settingLine "similar_pattern_threshold" .float s.similarThreshold ++
  settingLine "min_cluster_size" natToml s.minClusterSize ++
  settingLine "max_cluster_size" natToml s.maxClusterSize ++
  settingLine "coverage_weight" .float s.coverageWeight ++
  settingLine "mock_assertion_weight" .float s.mockWeight ++
  settingLine "exception_weight" .float s.exceptionWeight ++
  settingLine "structure_weight" .float s.shapeWeight

end DuplicateSettings

namespace CoverageSettings

def names : List String :=
  ["python", "timeout_secs", "max_parent_depth", "max_selected_files", "max_candidate_files"]

def ofToml? (t : Toml) : Option CoverageSettings := do
  let es ← t.sectionEntries names
  return {
    python := ← Toml.setting es "python" Toml.asString
    timeoutSeconds := ← Toml.setting es "timeout_secs" Toml.asNat
    maxParentDepth := ← Toml.setting es "max_parent_depth" Toml.asNat
    maxSelectedFiles := ← Toml.setting es "max_selected_files" Toml.asNat
    maxCandidateFiles := ← Toml.setting es "max_candidate_files" Toml.asNat }

def entries (s : CoverageSettings) : Toml.Entries :=
  settingLine "python" .string s.python ++
  settingLine "timeout_secs" natToml s.timeoutSeconds ++
  settingLine "max_parent_depth" natToml s.maxParentDepth ++
  settingLine "max_selected_files" natToml s.maxSelectedFiles ++
  settingLine "max_candidate_files" natToml s.maxCandidateFiles

end CoverageSettings

namespace StorageSettings

def names : List String := ["path", "retention_days", "enabled"]

def ofToml? (t : Toml) : Option StorageSettings := do
  let es ← t.sectionEntries names
  return {
    path := ← Toml.setting es "path" Toml.asString
    retentionDays := ← Toml.setting es "retention_days" Toml.asInt
    enabled := ← Toml.setting es "enabled" Toml.asBool }

def entries (s : StorageSettings) : Toml.Entries :=
  settingLine "path" .string s.path ++
  settingLine "retention_days" .integer s.retentionDays ++
  settingLine "enabled" .boolean s.enabled

end StorageSettings

namespace Config

def ofEntries? (es : Toml.Entries) : Option Config := do
  return {
    duplicates := (← Toml.setting es "duplicates" DuplicateSettings.ofToml?).getD .empty
    coverage := (← Toml.setting es "coverage" CoverageSettings.ofToml?).getD .empty
    storage := (← Toml.setting es "storage" StorageSettings.ofToml?).getD .empty }

def ofText? (text : String) : Option Config := (Toml.parse? text).bind ofEntries?

def unreadable : String := "not a valid configuration"

def ofText (place text : String) : Except ConfigError Config :=
  match ofText? text with
  | some c => .ok c
  | none => .error (.malformed place unreadable)

def ofString (text : String) : Except ConfigError Config := ofText "<string>" text

def tables (c : Config) : List (String × Toml.Entries) :=
  [("duplicates", c.duplicates.entries), ("coverage", c.coverage.entries),
   ("storage", c.storage.entries)]

def toText (c : Config) : Except ConfigError String :=
  match Toml.render? c.tables with
  | some text => .ok text
  | none => .error (.malformed "<serialization>" "number out of range")

end Config

end TestTwins
