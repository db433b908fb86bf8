import TestTwins.Disk
import TestTwins.Features.Signature
import TestTwins.Table
import TestTwins.TestId

namespace TestTwins

structure FeatureTable where
  features : Table String Signature
  errors : Table String String

def parseFile (d : Disk) (p : Path) : Except ParseError Python.Node :=
  match d.readText p with
  | .ok source => .ok (Python.parse source)
  | .error e => .error (.readFailed p.text e.message)

namespace FeatureTable

def empty : FeatureTable := ⟨.empty, .empty⟩

instance : Inhabited FeatureTable := ⟨empty⟩

def insert (t : FeatureTable) (key : String) (s : Signature) : FeatureTable :=
  { t with features := t.features.insert key s }

def get? (t : FeatureTable) (key : String) : Option Signature := t.features.get? key

def require (t : FeatureTable) (key : String) : Except DetectionError Signature :=
  match t.get? key with
  | some s => .ok s
  | none => .error (.missingFeatures key)

def error? (t : FeatureTable) (key : String) : Option String := t.errors.get? key

def keys (t : FeatureTable) : List String := t.features.keys

def size (t : FeatureTable) : Nat := t.features.size

def addFunction (t : FeatureTable) (file : String) (f : Python.Function) : FeatureTable :=
  let key := TestId.featureKey ⟨f.name, file⟩
  match Signature.ofFunction f with
  | .ok s => { t.insert key s with errors := t.errors.erase key }
  | .error e => { t.insert key .empty with errors := t.errors.insert key e.message }

def addModule (t : FeatureTable) (file : String) (module : Python.Node) : FeatureTable × Nat :=
  let tests := module.testFunctions
  (tests.foldl (·.addFunction file ·) t, tests.length)

def isPython (d : Disk) (p : Path) : Bool := p.extension? == some "py" && d.isFile p

def addFile (t : FeatureTable) (d : Disk) (p : Path) : Except ParseError (FeatureTable × Nat) :=
  if isPython d p then do return t.addModule p.text (← parseFile d p) else .ok (t, 0)

end FeatureTable

end TestTwins
