import TestTwins.Error
import TestTwins.OrderedSet
import TestTwins.Python.Module

namespace TestTwins

structure Signature where
  mocks : Nat
  exceptions : String
  shape : String
  deriving DecidableEq, Repr

namespace Signature

open Python

def empty : Signature := ⟨0, "", ""⟩

def mockAssertions : List String :=
  ["assert_called_once", "assert_called_with", "assert_has_calls", "assert_any_call",
   "assert_called_once_with", "assert_not_called", "assert_called", "assert_called_times"]

def callee (f : Function) (call : Node) : Except AnalysisError Node :=
  match call.child? .function with
  | some n => .ok n
  | none => .error (.malformedNode f.name ("call without callee at line " ++ toString call.line))

def callName? (callee : Node) : Option String :=
  match callee.kind with
  | .identifier => some callee.text
  | .attribute => (callee.child? .attribute).map (·.text)
  | _ => none

def isMockAssertion (callee : Node) : Bool :=
  (callName? callee).any mockAssertions.contains

def callees (f : Function) : Except AnalysisError (List Node) :=
  (f.descendants.filter (·.kind == .call)).mapM (callee f)

def mockCount (f : Function) : Except AnalysisError Nat := do
  return ((← callees f).filter isMockAssertion).length

def raisedType? (statement : Node) : Option String := do
  let raised ← statement.namedChildren.find? (·.kind != .comment)
  match raised.kind with
  | .identifier => some raised.text
  | .call =>
    let callee ← raised.child? .function
    if callee.kind == .identifier then some callee.text else none
  | _ => none

/-- `Foo` for `except Foo`, `except mod.Foo` and `except Foo as e`. -/
def handledType? (clause : Node) : Option String := do
  let handled ← clause.namedChildren.find? fun c => c.kind != .comment && c.kind != .block
  let handled ← if handled.kind == .asPattern then handled.namedChildren.head? else some handled
  match handled.kind with
  | .identifier => some handled.text
  | .attribute => (handled.child? .attribute).map (·.text)
  | _ => none

def exceptionToken? (f : Function) (n : Node) : Except AnalysisError (Option String) :=
  match n.kind with
  | .raiseStatement => .ok ((raisedType? n).map ("raise_" ++ ·))
  | .exceptClause => .ok ((handledType? n).map ("except_" ++ ·))
  | .call => do
    let target ← callee f n
    return if target.kind == .attribute && callName? target == some "raises"
      then some "pytest_raises" else none
  | _ => .ok none

def exceptionTokens (f : Function) : Except AnalysisError TokenSet := do
  return .ofList ((← f.descendants.mapM (exceptionToken? f)).filterMap id)

def joinBars (parts : List String) : String := String.intercalate "|" parts

def shapeOf (f : Function) (mocks : Nat) (exceptions : String) : String :=
  joinBars (
    ["func:" ++ f.name, "params:" ++ toString f.parameterCount,
     "decorators:" ++ toString f.decoratorCount, "statements:" ++ toString f.statementCount,
     "mocks:" ++ toString mocks] ++
    if exceptions == "" then [] else ["exceptions:" ++ exceptions])

def ofFunction (f : Function) : Except AnalysisError Signature := do
  let mocks ← mockCount f
  let exceptions := joinBars (← exceptionTokens f).toList
  return ⟨mocks, exceptions, shapeOf f mocks exceptions⟩

end Signature

end TestTwins
