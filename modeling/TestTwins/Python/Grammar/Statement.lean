import TestTwins.Python.Grammar.Pattern

namespace TestTwins.Python

namespace Grammar

variable (self : Self)

def newline : Parser Parts := do
  let before ← trivia
  let s ← get
  match s.tokens with
  | t :: rest =>
    match t.kind with
    | .newline indentation =>
      set { s with tokens := rest, indentation := indentation }
      return before
    | _ => failure
  | [] => failure

def atEnd : Parser Bool := return (← peek).kind == .eof

def seesNewline : Parser Bool := do
  match (← peek).kind with
  | .newline _ => return true
  | _ => return false

def seesStop : Parser Bool := do
  if ← sees ";" then return true else seesNewline

def importItem : Parser Parts := do
  let name ← dottedName
  if ← sees "as" then
    let word ← leaf .token
    grow .aliasedImport (labelled .name name ++ word) (fieldChild .alias anyWord)
  else return labelled .name name

def importList (stop : Parser Bool) : Parser Parts := do
  let items ← commaList importItem stop
  if items.isEmpty then failure else return items

def importStatement : Parser Parts := do
  let word ← expect "import"
  grow .importStatement word (importList seesStop)

def importedNames : Parser Parts := do
  if ← sees "*" then leaf .wildcardImport
  else if ← sees "(" then
    let start ← leaf .token
    let items ← importList (sees ")")
    return start ++ items ++ (← expect ")")
  else importList seesStop

def relativeModule : Parser Parts := do
  let dots ← iterate (fun parts => do
    if ← seesAny [".", "..."] then return some (parts ++ (← leaf .token)) else return none) []
  let front ← node .importPrefix dots
  if ← sees "import" then node .relativeImport front
  else grow .relativeImport front (child dottedName)

def importFromStatement : Parser Parts := do
  let word ← expect "from"
  if ← sees "__future__" then
    let future ← leaf .token
    let middle ← expect "import"
    grow .futureImportStatement (word ++ future ++ middle) (child importedNames)
  else
    let source ← fieldChild .moduleName
      (do if ← seesAny [".", "..."] then relativeModule else dottedName)
    let middle ← expect "import"
    grow .importFromStatement (word ++ source ++ middle) (child importedNames)

def returnStatement : Parser Parts := do
  let word ← expect "return"
  if ← seesStop then node .returnStatement word
  else grow .returnStatement word (child (expressions self))

def deleteStatement : Parser Parts := do
  let word ← expect "del"
  grow .deleteStatement word (child (expressions self))

def assertStatement : Parser Parts := do
  let word ← expect "assert"
  grow .assertStatement word (commaSeparated (expression self))

def raiseStatement : Parser Parts := do
  let word ← expect "raise"
  let raised ← if (← seesStop) || (← sees "from") then pure [] else child (expressions self)
  let cause ← if ← sees "from" then do
      let source ← leaf .token
      pure (source ++ (← fieldChild .cause (expression self)))
    else pure []
  node .raiseStatement (word ++ raised ++ cause)

def nameList (kind : Kind) (word : String) : Parser Parts := do
  let start ← expect word
  grow kind start (commaSeparated identifier)

def infixWords : List String := ["and", "or", "in", "is", "if", "else", "not", "for", "as"]

def startsFresh (t : Token) : Bool :=
  match t.kind with
  | .word => !infixWords.contains t.text
  | .integer | .float | .stringStart => true
  | _ => false

def printStatement : Parser Parts := do
  let word ← expect "print"
  if ← sees ">>" then
    let mark ← leaf .token
    let target ← grow .chevron mark (child (expression self))
    let comma ← accept ","
    grow .printStatement (word ++ target ++ comma) (commaList (expression self) seesStop)
  else grow .printStatement word (commaList (expression self) seesStop)

def execStatement : Parser Parts := do
  let word ← expect "exec"
  let code ← child (primary self)
  if ← sees "in" then
    let within ← leaf .token
    grow .execStatement (word ++ code ++ within) (commaSeparated (expression self))
  else node .execStatement (word ++ code)

def typeAliasStatement : Parser Parts := do
  let word ← expect "type"
  let left ← fieldChild .left (typeExpression self)
  let equals ← expect "="
  grow .typeAliasStatement (word ++ left ++ equals) (fieldChild .right (typeExpression self))

def augmentedMarks : List String :=
  ["+=", "-=", "*=", "/=", "@=", "//=", "%=", "**=", ">>=", "<<=", "&=", "^=", "|="]

def assignmentTail (items : Parts) : Parser (Option Parts) := do
  let t ← peek
  if Token.isText t "=" then
    let left := labelled .left (← targets items)
    let equals ← leaf .token
    return some (← grow .assignment (left ++ equals) (fieldChild .right (self .rightSide)))
  else if t.kind == .mark && augmentedMarks.contains t.text then
    let left := labelled .left (← targets items)
    let mark ← leaf .token
    return some (← grow .augmentedAssignment (left ++ mark) (fieldChild .right (self .rightSide)))
  else return none

def rightSide : Parser Parts := do
  let first ← element self
  let items ← expressionItems (element self) first
  match ← assignmentTail self items with
  | some a => return a
  | none => if items.length == first.length then return first else node .expressionList items

def expressionStatement : Parser Parts := do
  let first ← element self
  let items ← expressionItems (element self) first
  match ← assignmentTail self items with
  | some a => node .expressionStatement a
  | none =>
    if ← sees ":" then
      let left := labelled .left (← targets items)
      let colon ← leaf .token
      let type ← fieldChild .type (typeExpression self)
      let value ← if ← sees "=" then do
          let equals ← leaf .token
          pure (equals ++ (← fieldChild .right (rightSide self)))
        else pure []
      node .expressionStatement (← node .assignment (left ++ colon ++ type ++ value))
    else node .expressionStatement items

def simpleStatement : Parser Parts := do
  let t ← peek
  if t.kind != .word then expressionStatement self
  else match t.text with
    | "import" => importStatement
    | "from" => importFromStatement
    | "assert" => assertStatement self
    | "return" => returnStatement self
    | "del" => deleteStatement self
    | "raise" => raiseStatement self
    | "pass" => do node .passStatement (← leaf .token)
    | "break" => do node .breakStatement (← leaf .token)
    | "continue" => do node .continueStatement (← leaf .token)
    | "global" => nameList .globalStatement "global"
    | "nonlocal" => nameList .nonlocalStatement "nonlocal"
    | "print" => do
      let second ← peekSecond
      if startsFresh second || Token.isText second ">>" then printStatement self
      else expressionStatement self
    | "exec" => do
      if startsFresh (← peekSecond) then execStatement self else expressionStatement self
    | "type" => do
      let second ← peekSecond
      if second.kind == .word && startsFresh second then typeAliasStatement self
      else expressionStatement self
    | _ => expressionStatement self

def simpleStatements : Parser Parts := do
  let all ← iterate (fun parts => do
    if ← sees ";" then
      let mark ← leaf .token
      if ← seesNewline then return some (parts ++ mark)
      else return some (parts ++ mark ++ (← child (simpleStatement self)))
    else return none) (← simpleStatement self)
  return all ++ (← newline)

def blockLines (indentation : Nat) : Parser Parts :=
  iterate (fun parts => do
    if (← atEnd) || (← get).indentation < indentation then return none
    else return some (parts ++ (← child (self (.statement indentation))))) []

/-- The body after a colon, in a block with the given indentation. Without a body there is still an
empty block. -/
def suite (indentation : Nat) : Parser Parts := do
  let colon ← expect ":"
  if ← seesNewline then
    let place ← emptyNode .block
    let before ← newline
    let inner := (← get).indentation
    if indentation < inner && !(← atEnd) then
      let before := before ++ (← trivia)
      let body ← node .block (← blockLines self inner)
      return colon ++ before ++ labelled .body body
    else return colon ++ before ++ labelled .body place
  else
    let before ← trivia
    let body ← node .block (← simpleStatements self)
    return colon ++ before ++ labelled .body body

def goesOn (indentation : Nat) (words : List String) : Parser Bool := do
  if (← get).indentation < indentation then return false else seesAny words

def elseClause (indentation : Nat) : Parser Parts := do
  if ← goesOn indentation ["else"] then
    let before ← trivia
    let word ← leaf .token
    return before ++ (← grow .elseClause word (suite self indentation))
  else return []

def ifStatement (indentation : Nat) : Parser Parts := do
  let word ← expect "if"
  let condition ← fieldChild .condition (expression self)
  let body ← suite self indentation
  let all ← iterate (fun parts => do
    if ← goesOn indentation ["elif"] then
      let before ← trivia
      let word ← leaf .token
      let condition ← fieldChild .condition (expression self)
      return some (parts ++ before ++
        (← grow .elifClause (word ++ condition) (suite self indentation)))
    else return none) (word ++ condition ++ body)
  node .ifStatement (all ++ (← elseClause self indentation))

def whileStatement (indentation : Nat) : Parser Parts := do
  let word ← expect "while"
  let condition ← fieldChild .condition (expression self)
  let body ← suite self indentation
  node .whileStatement (word ++ condition ++ body ++ (← elseClause self indentation))

def forStatement (indentation : Nat) : Parser Parts := do
  let async ← accept "async"
  let word ← expect "for"
  let left ← fieldChild .left (loopTargets self)
  let within ← expect "in"
  let right ← fieldChild .right (expressions self)
  let body ← suite self indentation
  node .forStatement
    (async ++ word ++ left ++ within ++ right ++ body ++ (← elseClause self indentation))

def handled : Parser Parts := do
  if ← sees ":" then return []
  else
    let what ← child (namedByAs self)
    if ← sees "," then
      let comma ← leaf .token
      return what ++ comma ++ (← child (expression self))
    else return what

def handler (indentation : Nat) : Parser Parts := do
  let first ← peek
  let second ← peekSecond
  let word ← leaf .token
  if Token.isText second "*" && second.start == first.stop then
    let star ← leaf .token
    let what ← handled self
    grow .exceptGroupClause (word ++ star ++ what) (suite self indentation)
  else
    let what ← handled self
    grow .exceptClause (word ++ what) (suite self indentation)

def finallyClause (indentation : Nat) : Parser Parts := do
  if ← goesOn indentation ["finally"] then
    let before ← trivia
    let word ← leaf .token
    return before ++ (← grow .finallyClause word (suite self indentation))
  else return []

def tryStatement (indentation : Nat) : Parser Parts := do
  let word ← expect "try"
  let body ← suite self indentation
  let handlers ← iterate (fun parts => do
    if ← goesOn indentation ["except"] then
      let before ← trivia
      return some (parts ++ before ++ (← handler self indentation))
    else return none) []
  let otherwise ← if handlers.isEmpty then pure [] else elseClause self indentation
  let last ← finallyClause self indentation
  if handlers.isEmpty && last.isEmpty then failure
  else node .tryStatement (word ++ body ++ handlers ++ otherwise ++ last)

def withItem : Parser Parts := do
  node .withItem (labelled .value (← namedByAs self))

def closedBeforeColon (depth : Nat) : List Token → Bool
  | [] => false
  | t :: rest =>
    if t.kind == .eof then false
    else if t.kind == .mark && openings.contains t.text then closedBeforeColon (depth + 1) rest
    else if t.kind == .mark && closings.contains t.text then
      if depth == 1 then rest.head?.any (Token.isText · ":") else closedBeforeColon (depth - 1) rest
    else closedBeforeColon depth rest

def withItemGroup : Parser Parts := do
  let start ← expect "("
  let first ← child (withItem self)
  let comma ← expect ","
  let rest ← commaList (withItem self) (sees ")")
  if rest.isEmpty then failure
  else grow .withClause (start ++ first ++ comma ++ rest) (expect ")")

/-- Parentheses around several items belong to the clause; those around a single one belong to its
value. -/
def withClause : Parser Parts := do
  let plain : Parser Parts := do node .withClause (← commaList (withItem self) (sees ":"))
  if closedBeforeColon 0 (← get).tokens then withItemGroup self <|> plain else plain

def withStatement (indentation : Nat) : Parser Parts := do
  let async ← accept "async"
  let word ← expect "with"
  let clause ← child (withClause self)
  let body ← suite self indentation
  node .withStatement (async ++ word ++ clause ++ body)

def typeParameter : Parser Parts := do
  let t ← peek
  let name ←
    if Token.isText t "*" then splat .splatType "*" identifier
    else if Token.isText t "**" then splat .splatType "**" identifier
    else expression self
  let type ← node .type name
  if ← sees ":" then
    let colon ← leaf .token
    node .type (← grow .constrainedType (type ++ colon) (child (typeExpression self)))
  else return type

def typeParameters : Parser Parts := do
  if ← sees "[" then
    let before ← trivia
    let start ← leaf .token
    let items ← commaList (typeParameter self) (sees "]")
    return before ++ (← grow .typeParameter (start ++ items) (expect "]"))
  else return []

def missingParenthesis : Parser Parts := do
  if ← seesAny [":", "->"] then
    modify fun s => { s with brackets := s.brackets - 1 }
    emptyNode .missing
  else failure

def parameters : Parser Parts := do
  let start ← expect "("
  let items ← commaList (parameter self (some (typeExpression self))) (seesAny [")", ":", "->"])
  let stop ← if ← sees ")" then leaf .token else missingParenthesis
  node .parameters (start ++ items ++ stop)

def functionDefinition (indentation : Nat) : Parser Parts := do
  let async ← accept "async"
  let word ← expect "def"
  let name ← fieldChild .name anyWord
  let types ← typeParameters self
  let parameters ← fieldChild .parameters (parameters self)
  let result ← if ← sees "->" then do
      let arrow ← leaf .token
      pure (arrow ++ (← fieldChild .returnType (typeExpression self)))
    else pure []
  let body ← suite self indentation
  node .functionDefinition (async ++ word ++ name ++ types ++ parameters ++ result ++ body)

def classDefinition (indentation : Nat) : Parser Parts := do
  let word ← expect "class"
  let name ← fieldChild .name anyWord
  let types ← typeParameters self
  let bases ← if ← sees "(" then child (arguments self) else pure []
  let body ← suite self indentation
  node .classDefinition (word ++ name ++ types ++ bases ++ body)

def decorator : Parser Parts := do
  let mark ← expect "@"
  let value ← child (expression self)
  let line ← node .decorator (mark ++ value)
  return line ++ (← newline)

def decoratedDefinition (indentation : Nat) : Parser Parts := do
  let decorators ← iterate (fun parts => do
    if ← sees "@" then return some (parts ++ (← child (decorator self))) else return none) []
  let definition ← fieldChild .definition do
    if ← sees "class" then classDefinition self indentation
    else functionDefinition self indentation
  node .decoratedDefinition (decorators ++ definition)

def caseClause (indentation : Nat) : Parser Parts := do
  let word ← expect "case"
  let patterns ← commaList (casePattern self) (seesAny [":", "if"])
  if patterns.isEmpty then failure
  let guard ← if ← sees "if" then do
      let before ← trivia
      let word ← leaf .token
      pure (before ++ (← grow .ifClause word (child (disjunction self))))
    else pure []
  grow .caseClause (word ++ patterns ++ guard) (suite self indentation)

def caseClauses (indentation : Nat) : Parser Parts :=
  iterate (fun parts => do
    if (← atEnd) || (← get).indentation < indentation then return none
    else return some (parts ++ (← child (caseClause self indentation)))) []

def matchStatement (indentation : Nat) : Parser Parts := do
  let word ← expect "match"
  let subjects ← commaList (element self) (sees ":")
  let colon ← expect ":"
  let place ← emptyNode .block
  let before ← newline
  let inner := (← get).indentation
  if indentation < inner && !(← atEnd) then
    let before := before ++ (← trivia)
    let body ← node .block (← caseClauses self inner)
    node .matchStatement (word ++ subjects ++ colon ++ before ++ labelled .body body)
  else node .matchStatement (word ++ subjects ++ colon ++ before ++ labelled .body place)

def endsWithColon (depth : Nat) (last : Bool) : List Token → Bool
  | [] => false
  | t :: rest =>
    match t.kind with
    | .newline _ => if depth == 0 then last else endsWithColon depth last rest
    | .eof => false
    | _ => endsWithColon (bracketsAfter t depth) (Token.isText t ":" && depth == 0) rest

/-- `match` is a statement only if its line ends with a colon, and something to match stands before
it. -/
def seesMatch : Parser Bool := do
  let s ← get
  match s.tokens with
  | t :: second :: rest =>
    return Token.isText t "match" && endsWithColon 0 false (second :: rest) &&
      !([":", "=", ".", ","].any (Token.isText second))
  | _ => return false

def compoundOrSimple (indentation : Nat) : Parser Parts := do
  let t ← peek
  if Token.isText t "@" then decoratedDefinition self indentation
  else if t.kind != .word then simpleStatements self
  else match t.text with
    | "if" => ifStatement self indentation
    | "while" => whileStatement self indentation
    | "for" => forStatement self indentation
    | "try" => tryStatement self indentation
    | "with" => withStatement self indentation
    | "def" => functionDefinition self indentation
    | "class" => classDefinition self indentation
    | "async" => do
      let second ← peekSecond
      if Token.isText second "def" then functionDefinition self indentation
      else if Token.isText second "for" then forStatement self indentation
      else if Token.isText second "with" then withStatement self indentation
      else simpleStatements self
    | "match" => do
      if ← seesMatch then matchStatement self indentation else simpleStatements self
    | _ => simpleStatements self

def restOfLine : List Token → List Token × Nat × List Token
  | [] => ([], 0, [])
  | t :: rest =>
    match t.kind with
    | .newline indentation => ([], indentation, rest)
    | .eof => ([], 0, t :: rest)
    | _ =>
      let (line, indentation, after) := restOfLine rest
      (t :: line, indentation, after)

def tokenPart (t : Token) : Parts :=
  t.trivia ++ [⟨⟨.token, none, t.line, t.text, []⟩, t.start, t.stop⟩]

def errorLine : Parser Parts := do
  let s ← get
  let (line, indentation, after) := restOfLine s.tokens
  let wrong ← node .error (line.flatMap tokenPart)
  set { s with tokens := after, brackets := 0, indentation := indentation }
  return wrong

def statement (indentation : Nat) : Parser Parts := do
  if ← seesNewline then newline
  else
    let s ← get
    let s := { s with brackets := 0 }
    match (compoundOrSimple self indentation).run s with
    | some (parts, after) =>
      set after
      return parts
    | none =>
      set s
      errorLine

def production : Goal → Parser Parts
  | .expression => expression self
  | .disjunction => disjunction self
  | .negation => negation self
  | .factor => factor self
  | .rightSide => rightSide self
  | .replacementField => replacementField self
  | .casePattern => casePattern self
  | .simplePattern => simplePattern self
  | .parameterTuple => parameterTuple self
  | .statement indentation => statement self indentation

def read : Nat → Goal → Parser Parts
  | 0, _ => failure
  | n + 1, goal => production (read n) goal

def moduleLines (depth : Nat) : Parser Parts := do
  let before ← trivia
  let lines ← blockLines (read depth) 0
  return before ++ lines ++ (← trivia)

end Grammar

/-- The syntax tree of a source. Every source has one; what is not Python is kept in it as an
error. -/
def parse (source : String) : Node :=
  let chars := source.toList
  let tokens := tokenize chars
  let turns := tokens.length + 8
  let start : Grammar.Input := ⟨chars.toArray, tokens, 0, 0, turns⟩
  let parts := match (Grammar.moduleLines turns).run start with
    | some (parts, _) => parts
    | none => []
  ⟨.module, none, 1, source, parts.map (·.node)⟩

end TestTwins.Python
