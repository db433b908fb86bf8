import TestTwins.Collector
import TestTwins.Detector
import TestTwins.Store

namespace TestTwins

def Json.number (x : Float) : Json :=
  if x.isNaN then .str "NaN"
  else if x.isInf then .str (if x < 0 then "-inf" else "inf")
  else .float x

def Json.numbers (xs : List Float) : Json := .arr (xs.map .number)

def Path.listJson (ps : List Path) : Json := .strings (ps.map (·.text))

def TestId.toJson (t : TestId) : Json :=
  .obj [
    ("test_name", .str t.name),
    ("file_path", .str t.file),
    ("feature_key", .str t.featureKey),
    ("similarity_key", .str t.similarityKey)]

def TestId.pairJson (t : TestId) : Json := .strings [t.name, t.file]

def Python.Function.toJson (f : Python.Function) : Json :=
  .obj [
    ("name", .str f.name),
    ("line", .nat f.line),
    ("params", .nat f.parameterCount),
    ("decorators", .nat f.decoratorCount),
    ("statements", .nat f.statementCount)]

def Python.Node.summary (root : Python.Node) : Json :=
  .obj [
    ("has_errors", .bool root.hasErrors),
    ("functions", .arr (root.functions.map Python.Function.toJson)),
    ("tests", .strings (root.testFunctions.map (·.name))),
    ("imports", .strings root.importedModules),
    ("non_test", .bool root.definesNonTest)]

def Signature.members (s : Signature) : List (String × Json) :=
  [("mocks", .nat s.mocks), ("exceptions", .str s.exceptions), ("structure", .str s.shape)]

def Signature.toJson (s : Signature) : Json := .obj s.members

def Thresholds.toJson (t : Thresholds Float) : Json :=
  .obj [("exact", .number t.exact), ("near", .number t.near), ("similar", .number t.similar)]

def Weights.toJson (w : Weights Float) : Json := .numbers [w.coverage, w.mock, w.exception, w.shape]

def Scores.toJson (s : Scores Float) : Json :=
  .obj [
    ("coverage", .number s.coverage),
    ("mock", .number s.mock),
    ("exception", .number s.exception),
    ("structural", .number s.shape),
    ("overall", .number s.overall)]

def Cluster.toJson (c : Cluster Float) : Json :=
  .obj [
    ("cluster_id", .str c.id),
    ("tests", .arr (c.tests.map TestId.pairJson)),
    ("len", .nat c.tests.length),
    ("is_empty", .bool c.tests.isEmpty),
    ("similarity_score", .number c.score),
    ("cluster_type", .str c.type.name),
    ("representative_test", c.representative.pairJson),
    ("suggestion", .str c.suggestion)]

def Fingerprint.toJson (f : Fingerprint) : Json :=
  .obj [
    ("test_name", .str f.test),
    ("file_path", .str f.file.text),
    ("signature_hash", .str f.hash),
    ("signature_vector", .numbers f.vector),
    ("coverage_pattern", .str f.pattern),
    ("similarity_threshold", .number f.threshold)]

def FileLines.toJson (f : FileLines) : Json :=
  .obj [
    ("executable", .nats f.executable.toList),
    ("executed", .nats f.executed.toList),
    ("arcs", .nat f.arcs)]

def Measurement.toJson (m : Measurement) : Json :=
  .obj [
    ("files", .obj (m.files.entries.map fun (p, f) => (p, f.toJson))),
    ("test_found", .bool m.testFound),
    ("test_error", .option .str m.testError),
    ("load_error", .option .str m.loadError),
    ("executed_line_count", .nat m.executedCount)]

def Request.toJson (r : Request) : Json :=
  .obj [
    ("test_file", .str r.file.text),
    ("test_name", .str r.test),
    ("sources", Path.listJson r.sources),
    ("roots", Path.listJson r.roots)]

def Collector.totals (c : Collector) : Json :=
  let files := (c.importedFiles.map (·.text)).mergeSort fun a b => a ≤ b
  .obj [("imported_files", .strings files), ("called_functions", .strings c.calledFunctions.toList)]

def RetentionReport.toJson (r : RetentionReport) : Json :=
  .obj [("sessions", .nat r.sessions), ("tests", .nat r.tests), ("total", .nat r.total)]

def SignatureRecord.scoredJson (r : SignatureRecord) (score : Float) : Json :=
  .obj (r.members ++ [("similarity_score", .float score)])

def Config.settings (c : Config) : Json :=
  let d := c.duplicates
  let v := c.coverage
  let s := c.storage
  .obj [
    ("exact_duplicate_threshold", .option .number d.exactThreshold),
    ("near_duplicate_threshold", .option .number d.nearThreshold),
    ("similar_pattern_threshold", .option .number d.similarThreshold),
    ("min_cluster_size", .option .nat d.minClusterSize),
    ("max_cluster_size", .option .nat d.maxClusterSize),
    ("coverage_weight", .option .number d.coverageWeight),
    ("mock_assertion_weight", .option .number d.mockWeight),
    ("exception_weight", .option .number d.exceptionWeight),
    ("structure_weight", .option .number d.shapeWeight),
    ("python", .option .str v.python),
    ("timeout_secs", .option .nat v.timeoutSeconds),
    ("max_parent_depth", .option .nat v.maxParentDepth),
    ("max_selected_files", .option .nat v.maxSelectedFiles),
    ("max_candidate_files", .option .nat v.maxCandidateFiles),
    ("path", .option .str s.path),
    ("retention_days", .option .int s.retentionDays),
    ("enabled", .option .bool s.enabled)]

def Config.effective (c : Config) : Json :=
  let d := c.duplicates
  .obj [
    ("thresholds", d.thresholds.toJson),
    ("cluster_thresholds", d.clusters.thresholds.toJson),
    ("weights", d.weights.toJson),
    ("min_cluster_size", .nat d.minSize),
    ("max_cluster_size", .nat d.maxSize),
    ("python", .str c.coverage.interpreter),
    ("timeout_secs", .nat c.coverage.timeout),
    ("max_parent_depth", .nat c.coverage.parentDepth),
    ("max_selected_files", .nat c.coverage.selectedFiles),
    ("max_candidate_files", .nat c.coverage.candidateFiles),
    ("path", .str c.storage.root),
    ("retention_days", .int c.storage.retention),
    ("enabled", .bool c.storage.isEnabled)]

end TestTwins
