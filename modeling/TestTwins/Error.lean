namespace TestTwins

inductive ConfigError
  | fileNotFound (path : String)
  | malformed (path detail : String)
  | invalid (field reason : String)
  deriving DecidableEq, Repr

inductive ParseError
  | readFailed (path detail : String)
  | grammarNotLoaded (detail : String)
  | noTree (path detail : String)
  | functionNotFound (path name : String)
  deriving DecidableEq, Repr

inductive ResolutionError
  | noParent (path : String)
  | importAnalysis (path detail : String)
  | traversal (path detail : String)
  deriving DecidableEq, Repr

inductive InstrumentationError
  | sessionStart (detail : String)
  | spawn (program detail : String)
  | timeout (test : String) (milliseconds : Nat)
  | harnessFailed (test detail : String)
  | testLoad (test detail : String)
  | malformedOutput (detail : String)
  deriving DecidableEq, Repr

inductive AnalysisError
  | parse (cause : ParseError)
  | testNotFound (file test : String)
  | malformedNode (test detail : String)
  | invalidRecord (reason : String)
  deriving DecidableEq, Repr

inductive DetectionError
  | malformedKey (key : String)
  | missingFeatures (key : String)
  | component (component pair detail : String)
  | emptyCluster
  deriving DecidableEq, Repr

inductive StorageError
  | disk (path detail : String)
  | serialization (path detail : String)
  deriving DecidableEq, Repr

inductive PipelineError
  | parse (cause : ParseError)
  | resolution (cause : ResolutionError)
  | instrumentation (cause : InstrumentationError)
  | analysis (cause : AnalysisError)
  | detection (cause : DetectionError)
  | storage (cause : StorageError)
  | config (cause : ConfigError)
  deriving DecidableEq, Repr

def ConfigError.message : ConfigError → String
  | fileNotFound path => "Config file not found: " ++ path
  | malformed path detail => "Config parse error in " ++ path ++ ": " ++ detail
  | invalid field reason => "Config validation failed for " ++ field ++ ": " ++ reason

def ConfigError.code (_ : ConfigError) : String := "CONFIG_ERROR"

def ParseError.message : ParseError → String
  | readFailed path detail => "Failed to read " ++ path ++ ": " ++ detail
  | grammarNotLoaded detail => "Grammar could not be loaded: " ++ detail
  | noTree path detail => "Tree-sitter error parsing " ++ path ++ ": " ++ detail
  | functionNotFound path name => "Function " ++ name ++ " not found in " ++ path

def ParseError.code (_ : ParseError) : String := "PARSE_ERROR"

def ResolutionError.message : ResolutionError → String
  | noParent path => "Test file has no parent directory: " ++ path
  | importAnalysis path detail => "Import analysis failed for " ++ path ++ ": " ++ detail
  | traversal path detail => "Directory traversal failed at " ++ path ++ ": " ++ detail

def ResolutionError.code (_ : ResolutionError) : String := "RESOLUTION_ERROR"

def InstrumentationError.message : InstrumentationError → String
  | sessionStart detail => "Coverage session could not be started: " ++ detail
  | spawn program detail => "Failed to spawn " ++ program ++ ": " ++ detail
  | timeout test ms => "Test " ++ test ++ " timed out after " ++ toString ms ++ "ms"
  | harnessFailed test detail => "Coverage harness failed for " ++ test ++ ": " ++ detail
  | testLoad test detail => "Test module for " ++ test ++ " failed to load: " ++ detail
  | malformedOutput detail => "Malformed coverage output: " ++ detail

def InstrumentationError.code : InstrumentationError → String
  | timeout .. => "EXECUTION_TIMEOUT"
  | _ => "INSTRUMENTATION_ERROR"

def AnalysisError.message : AnalysisError → String
  | parse cause => cause.message
  | testNotFound file test => "Test function " ++ test ++ " not found in " ++ file
  | malformedNode test detail => "Malformed node in " ++ test ++ ": " ++ detail
  | invalidRecord reason => "Invalid coverage record: " ++ reason

def AnalysisError.code : AnalysisError → String
  | parse cause => cause.code
  | _ => "ANALYSIS_ERROR"

def DetectionError.message : DetectionError → String
  | malformedKey key => "Malformed test key: " ++ key
  | missingFeatures key => "No features recorded for " ++ key
  | component name pair detail =>
    "Similarity component " ++ name ++ " failed for " ++ pair ++ ": " ++ detail
  | emptyCluster => "Cluster has no members"

def DetectionError.code (_ : DetectionError) : String := "DETECTION_ERROR"

def StorageError.message : StorageError → String
  | disk path detail => "I/O error at " ++ path ++ ": " ++ detail
  | serialization path detail => "Serialization failed for " ++ path ++ ": " ++ detail

def StorageError.code (_ : StorageError) : String := "STORAGE_ERROR"

def PipelineError.causeMessage : PipelineError → String
  | parse e => e.message
  | resolution e => e.message
  | instrumentation e => e.message
  | analysis e => e.message
  | detection e => e.message
  | storage e => e.message
  | config e => e.message

def PipelineError.message : PipelineError → String
  | parse e => "Parse error: " ++ e.message
  | resolution e => "Resolution error: " ++ e.message
  | instrumentation e => "Instrumentation error: " ++ e.message
  | analysis e => "Analysis error: " ++ e.message
  | detection e => "Detection error: " ++ e.message
  | storage e => "Storage error: " ++ e.message
  | config e => "Configuration error: " ++ e.message

def PipelineError.code : PipelineError → String
  | parse e => e.code
  | resolution e => e.code
  | instrumentation e => e.code
  | analysis e => e.code
  | detection e => e.code
  | storage e => e.code
  | config e => e.code

def codedMessage (code message : String) : String := "[" ++ code ++ "] " ++ message

structure Outcome (α : Type) where
  data : α
  errors : List PipelineError

namespace Outcome

def pure (data : α) : Outcome α := ⟨data, []⟩

def addError (o : Outcome α) (e : PipelineError) : Outcome α := ⟨o.data, o.errors ++ [e]⟩

def isClean (o : Outcome α) : Bool := o.errors.isEmpty

def errorCount (o : Outcome α) : Nat := o.errors.length

end Outcome

end TestTwins
