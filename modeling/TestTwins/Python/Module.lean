import TestTwins.Python.Grammar.Statement

namespace TestTwins.Python

structure Function where
  node : Node
  parent : Option Node

namespace Function

def name (f : Function) : String := ((f.node.child? .name).map (·.text)).getD ""

def line (f : Function) : Nat := f.node.line

def isSplat (n : Node) : Bool := n.kind == .listSplatPattern || n.kind == .dictionarySplatPattern

/-- Parameters that can be given by position or by name: a slash starts the count anew, and a star or
what it collects ends it. -/
def countParameters (count : Nat) : List Node → Nat
  | [] => count
  | p :: rest =>
    match p.kind with
    | .positionalSeparator => countParameters 0 rest
    | .keywordSeparator | .listSplatPattern | .dictionarySplatPattern => count
    | .typedParameter =>
      if p.namedChildren.head?.any isSplat then count else countParameters (count + 1) rest
    | .identifier | .defaultParameter | .typedDefaultParameter => countParameters (count + 1) rest
    | _ => countParameters count rest

def parameterCount (f : Function) : Nat :=
  match f.node.child? .parameters with
  | some params => countParameters 0 params.namedChildren
  | none => 0

def decoratorCount (f : Function) : Nat :=
  match f.parent with
  | some p =>
    if p.kind == .decoratedDefinition then
      (p.namedChildren.filter (·.kind == .decorator)).length
    else 0
  | none => 0

def body? (f : Function) : Option Node := f.node.child? .body

def statementCount (f : Function) : Nat :=
  match f.body? with
  | some body => (body.namedChildren.filter (·.kind != .comment)).length
  | none => 0

def descendants (f : Function) : List Node := f.node.breadthFirst

end Function

def childFunctions (n : Node) : List Function :=
  (n.children.filter (·.kind == .functionDefinition)).map (⟨·, some n⟩)

def isTestLike (name : String) : Bool :=
  name.startsWith "test_" || name.startsWith "Test" || (name.toLower.splitOn "test").length != 1

namespace Node

def functions (root : Node) : List Function :=
  (if root.kind == .functionDefinition then [⟨root, none⟩] else []) ++
    root.breadthFirst.flatMap childFunctions

def testFunctions (root : Node) : List Function :=
  root.functions.filter (·.name.startsWith "test_")

def findFunction? (root : Node) (name : String) : Option Function :=
  root.functions.find? (·.name == name)

def definesNonTest (root : Node) : Bool := root.functions.any fun f => !isTestLike f.name

def firstArgument? (call : Node) : Option Node :=
  (call.child? .arguments).bind fun args => args.namedChildren.find? (·.kind != .comment)

end Node

def dropPrefix? (start cs : List Char) : Option (List Char) :=
  if start.isPrefixOf cs then some (cs.drop start.length) else none

def unquoted? (quote cs : List Char) : Option (List Char) := do
  let inner ← dropPrefix? quote cs
  let inner ← dropPrefix? quote inner.reverse
  return inner.reverse

def quotes : List (List Char) :=
  let double := '"'
  let single := Char.ofNat 39
  [[double, double, double], [single, single, single], [double], [single]]

def literalValue (raw : String) : String :=
  let body := raw.toList.dropWhile Char.isAlpha
  String.ofList ((quotes.findSome? (unquoted? · body)).getD body)

def importsOf (n : Node) : List String :=
  match n.kind with
  | .importStatement =>
    n.namedChildren.filterMap fun c =>
      match c.kind with
      | .dottedName => some c.text
      | .aliasedImport => (c.child? .name).map (·.text)
      | _ => none
  | .importFromStatement =>
    match n.child? .moduleName with
    | some m =>
      match m.kind with
      | .dottedName => [m.text]
      | .relativeImport => ((m.namedChildren.find? (·.kind == .dottedName)).map (·.text)).toList
      | _ => []
    | none => []
  | .call =>
    match n.child? .function with
    | some f =>
      if f.kind == .identifier && f.text == "__import__" then
        match n.firstArgument? with
        | some a => if a.kind == .string then [literalValue a.text] else []
        | none => []
      else []
    | none => []
  | _ => []

def withoutDots (name : String) : String := String.ofList (name.toList.dropWhile (· == '.'))

def distinctModules (names : List String) : List String :=
  names.foldl (fun seen name =>
    let name := withoutDots name
    if name == "" || seen.contains name then seen else seen ++ [name]) []

def Node.importedModules (root : Node) : List String :=
  distinctModules (root.breadthFirst.flatMap importsOf)

end TestTwins.Python
