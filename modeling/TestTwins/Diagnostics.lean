import TestTwins.Features.Signature
import TestTwins.Json
import TestTwins.Sources.Matching

namespace TestTwins

open Python

structure ImportAnalysis where
  files : List Path
  count : Nat
  available : Nat
  ratio : Float

structure CallTypes where
  direct : Nat
  method : Nat
  nested : Nat
  dynamic : Nat
  assertions : Nat
  deriving DecidableEq, Repr

structure CallAnalysis where
  called : TokenSet
  types : CallTypes

structure Diagnostics where
  imports : Except String ImportAnalysis
  calls : Except String CallAnalysis

inductive CallCategory
  | direct | method | nested | dynamic | assertion
  deriving DecidableEq, Repr

def CallCategory.ofName (name : String) : CallCategory :=
  let dots := name.toList.count '.'
  if name.startsWith "assert" then .assertion
  else if dots != 0 && !name.startsWith "." then if dots == 1 then .method else .nested
  else if name == "subscript_call" || name == "callable_result" then .dynamic
  else .direct

namespace CallTypes

def ofNames (names : List String) : CallTypes :=
  let count (c : CallCategory) := (names.filter (CallCategory.ofName · == c)).length
  ⟨count .direct, count .method, count .nested, count .dynamic, count .assertion⟩

def entries (t : CallTypes) : List (String × Nat) :=
  [("direct_calls", t.direct), ("method_calls", t.method), ("nested_calls", t.nested),
   ("dynamic_calls", t.dynamic), ("assertions", t.assertions)]

end CallTypes

namespace CallAnalysis

mutual

/-- `a.b.c` for attributes of a name, `.c` for those of any other value. -/
def chain (test : String) : Node → Except AnalysisError String
  | ⟨_, _, _, _, children⟩ =>
    match children.find? (·.field == some .attribute) with
    | none => .error (.malformedNode test "attribute without name")
    | some name => do return (← owner test children) ++ "." ++ name.text

def owner (test : String) : List Node → Except AnalysisError String
  | [] => .ok ""
  | n :: rest =>
    if n.field == some .object then
      match n.kind with
      | .identifier => .ok n.text
      | .attribute => chain test n
      | _ => .ok ""
    else owner test rest

end

def target? (f : Function) (call : Node) : Except AnalysisError (Option String) := do
  let callee ← Signature.callee f call
  match callee.kind with
  | .identifier => return some callee.text
  | .attribute => return some (← chain f.name callee)
  | .subscript => return some "subscript_call"
  | .call => return some "callable_result"
  | _ => return none

def nameOf? (f : Function) (n : Node) : Except AnalysisError (Option String) :=
  match n.kind with
  | .call => target? f n
  | .assertStatement => .ok (some "assert")
  | _ => .ok none

def ofNames (names : List String) : CallAnalysis :=
  let called : TokenSet := .ofList names
  ⟨called, .ofNames called.toList⟩

def ofFunction (f : Function) : Except AnalysisError CallAnalysis := do
  return ofNames ((← f.descendants.mapM (nameOf? f)).filterMap id)

end CallAnalysis

namespace ImportAnalysis

def ofFunction (f : Function) (sources : List Path) : ImportAnalysis :=
  let files := Sources.findModules f.node.importedModules sources
  let ratio : Float :=
    if sources.isEmpty then 0 else files.length.toUInt64.toFloat / sources.length.toUInt64.toFloat
  ⟨files, files.length, sources.length, ratio⟩

end ImportAnalysis

namespace Diagnostics

def ofFunction (f : Function) (sources : List Path) : Diagnostics :=
  ⟨.ok (.ofFunction f sources), (CallAnalysis.ofFunction f).mapError AnalysisError.message⟩

def importsJson : Except String ImportAnalysis → Json
  | .ok a => .obj [
      ("imported_files", .strings (a.files.map (·.text))),
      ("import_count", .nat a.count),
      ("source_files_available", .nat a.available),
      ("coverage_ratio", .float a.ratio)]
  | .error e => .obj [("error", .str e), ("imported_files", .arr []), ("import_count", .nat 0)]

def callsJson : Except String CallAnalysis → Json
  | .ok a => .obj [
      ("called_functions", .strings a.called.toList),
      ("call_count", .nat a.called.size),
      ("call_types", .obj (a.types.entries.map fun (k, n) => (k, .nat n)))]
  | .error e => .obj [("error", .str e), ("called_functions", .arr []), ("call_count", .nat 0)]

def toJson (d : Diagnostics) : Json :=
  .obj [("imports", importsJson d.imports), ("calls", callsJson d.calls)]

def importInsights : Except String ImportAnalysis → List String
  | .ok a => ["imports:" ++ toString a.count, "import_coverage:" ++ Decimal.fixed 2 a.ratio]
  | .error _ => []

def callInsights : Except String CallAnalysis → List String
  | .ok a =>
    ["calls:" ++ toString a.called.size, "assertions:" ++ toString a.types.assertions] ++
      (a.types.entries.filter (0 < ·.2)).map fun (k, n) => k ++ ":" ++ toString n
  | .error _ => []

def insights (d : Option Diagnostics) (sourceCount : Nat) : String :=
  let parts := match d with
    | some d => importInsights d.imports ++ callInsights d.calls
    | none => []
  Signature.joinBars (parts ++ ["source_files:" ++ toString sourceCount])

end Diagnostics

end TestTwins
