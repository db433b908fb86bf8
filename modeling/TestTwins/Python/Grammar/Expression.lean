import TestTwins.Python.Grammar.Basic

namespace TestTwins.Python.Grammar

variable (self : Self)

def grow (kind : Kind) (left : Parts) (rest : Parser Parts) : Parser Parts := do
  node kind (left ++ (← rest))

def splat (kind : Kind) (mark : String) (operand : Parser Parts) : Parser Parts := do
  let star ← expect mark
  grow kind star (child operand)

def endsExpression (marks : List String) (t : Token) : Bool :=
  match t.kind with
  | .newline _ | .eof => true
  | _ => marks.any (Token.isText t)

def yieldExpression : Parser Parts := do
  let word ← expect "yield"
  if ← sees "from" then
    let source ← leaf .token
    grow .yield (word ++ source) (child (self .expression))
  else
    let t ← peek
    if t.kind == .typeConversion || endsExpression [")", "]", "\x7d", "=", ";", ":", ","] t then
      node .yield word
    else
      let first ← child (self .expression)
      if ← sees "," then
        let items ← iterate (fun parts => do
          if ← sees "," then
            let comma ← leaf .token
            if endsExpression [")", "]", "\x7d", "=", ";"] (← peek) then return some (parts ++ comma)
            else return some (parts ++ comma ++ (← child (self .expression)))
          else return none) first
        grow .yield word (node .expressionList items)
      else node .yield (word ++ first)

def element : Parser Parts := do
  if ← sees "*" then splat .listSplat "*" (self .expression)
  else if ← sees "yield" then yieldExpression self
  else self .expression

mutual

def patternNode : Node → Option Node
  | ⟨kind, field, line, text, children⟩ =>
    match kind with
    | .identifier | .attribute | .subscript | .listSplatPattern =>
      some ⟨kind, field, line, text, children⟩
    | .listSplat => some ⟨.listSplatPattern, field, line, text, children⟩
    | .tuple | .parenthesizedExpression =>
      (patternNodes children).map fun cs => ⟨.tuplePattern, field, line, text, cs⟩
    | .list => (patternNodes children).map fun cs => ⟨.listPattern, field, line, text, cs⟩
    | .token | .comment | .lineContinuation => some ⟨kind, field, line, text, children⟩
    | _ => none

def patternNodes : List Node → Option (List Node)
  | [] => some []
  | n :: rest =>
    match patternNode n, patternNodes rest with
    | some m, some ms => some (m :: ms)
    | _, _ => none

end

def patternPart (p : Part) : Option Part := (patternNode p.node).map fun n => { p with node := n }

def targets (parts : Parts) : Parser Parts := do
  match parts.mapM patternPart with
  | some [p] => return [p]
  | some ps => node .patternList ps
  | none => failure

def starTarget : Parser Parts := do
  if ← sees "*" then splat .listSplat "*" (self .factor) else self .factor

def loopTargets : Parser Parts := do
  targets (← commaList (starTarget self) (sees "in"))

def slicePart : Parser Parts := do
  let ends : Parser Bool := seesAny [":", "]", ","]
  let optional : Parser Parts := do
    if ← ends then return [] else child (self .expression)
  let low ← if ← sees ":" then pure [] else child (element self)
  if ← sees ":" then
    let colon ← leaf .token
    let high ← optional
    let step ← if ← sees ":" then do
        let colon ← leaf .token
        pure (colon ++ (← optional))
      else pure []
    node .slice (low ++ colon ++ high ++ step)
  else return low

def clauses : Parser Parts :=
  iterate (fun parts => do
    if ← sees "if" then
      let before ← trivia
      let word ← leaf .token
      let clause ← grow .ifClause word (child (self .disjunction))
      return some (parts ++ before ++ clause)
    else if ← seesAny ["for", "async"] then
      let before ← trivia
      let async ← accept "async"
      let word ← child (expect "for")
      let left ← fieldChild .left (loopTargets self)
      let within ← expect "in"
      let right ← fieldChild .right (self .disjunction)
      let right ← iterate (fun parts => do
        if ← sees "," then
          let comma ← leaf .token
          if ← seesAny [")", "]", "\x7d", "for", "if", "async"] then return some (parts ++ comma)
          else return some (parts ++ comma ++ (← child (self .disjunction)))
        else return none) right
      let clause ← node .forInClause (async ++ word ++ left ++ within ++ right)
      return some (parts ++ before ++ clause)
    else return none) []

def seesClause : Parser Bool := do
  if ← sees "for" then return true
  else if ← sees "async" then return Token.isText (← peekSecond) "for"
  else return false

def moreElements (item : Parser Parts) (close : String) (first : Parts) : Parser Parts := do
  if ← sees "," then
    let comma ← leaf .token
    return first ++ comma ++ (← commaList item (sees close))
  else return first

def perhapsNamed (value : Parts) : Parser Parts := do
  if ← sees "as" then
    let word ← leaf .token
    let before ← trivia
    let target ← node .asPatternTarget (← self .expression)
    node .asPattern (value ++ word ++ before ++ labelled .alias target)
  else return value

def parenthesized : Parser Parts := do
  let start ← expect "("
  if ← sees ")" then grow .tuple start (leaf .token)
  else
    let first ← child (do perhapsNamed self (← element self))
    if ← seesClause then
      let rest ← clauses self
      grow .generatorExpression (start ++ first ++ rest) (expect ")")
    else if ← sees "," then
      let items ← moreElements (element self) ")" first
      grow .tuple (start ++ items) (expect ")")
    else grow .parenthesizedExpression (start ++ first) (expect ")")

def listDisplay : Parser Parts := do
  let start ← expect "["
  if ← sees "]" then grow .list start (leaf .token)
  else
    let first ← child (element self)
    if ← seesClause then
      let rest ← clauses self
      grow .listComprehension (start ++ first ++ rest) (expect "]")
    else
      let items ← moreElements (element self) "]" first
      grow .list (start ++ items) (expect "]")

def member : Parser Parts := do
  if ← sees "**" then splat .dictionarySplat "**" (self .disjunction)
  else
    let key ← element self
    if ← sees ":" then
      let colon ← leaf .token
      grow .pair (key ++ colon) (fieldChild .value (self .expression))
    else return key

def isMemberOf (dictionary : Bool) (p : Part) : Bool :=
  match p.node.kind with
  | .token | .comment | .lineContinuation => true
  | .pair | .dictionarySplat => dictionary
  | _ => !dictionary

def braceDisplay : Parser Parts := do
  let start ← expect "\x7b"
  if ← sees "\x7d" then grow .dictionary start (leaf .token)
  else
    let first ← child (member self)
    let isPair := lastKind first == some .pair || lastKind first == some .dictionarySplat
    if ← seesClause then
      let rest ← clauses self
      let kind := if isPair then Kind.dictionaryComprehension else .setComprehension
      grow kind (start ++ first ++ rest) (expect "\x7d")
    else
      let items ← moreElements (member self) "\x7d" first
      if items.all (isMemberOf isPair) then
        grow (if isPair then .dictionary else .set) (start ++ items) (expect "\x7d")
      else failure

def argument : Parser Parts := do
  if ← sees "*" then splat .listSplat "*" (self .expression)
  else if ← sees "**" then splat .dictionarySplat "**" (self .expression)
  else
    let t ← peek
    let second ← peekSecond
    if t.kind == .word && Token.isText second "=" then
      let name ← fieldChild .name anyWord
      let equals ← leaf .token
      grow .keywordArgument (name ++ equals) (fieldChild .value (self .expression))
    else self .expression

def arguments : Parser Parts := do
  let start ← expect "("
  if ← sees ")" then grow .argumentList start (leaf .token)
  else
    let first ← child (argument self)
    if ← seesClause then
      let rest ← clauses self
      grow .generatorExpression (start ++ first ++ rest) (expect ")")
    else
      let items ← moreElements (argument self) ")" first
      grow .argumentList (start ++ items) (expect ")")

def replacementField : Parser Parts := do
  let start ← expect "\x7b"
  let first ← child (element self)
  let value ← if ← sees "," then do
      let items ← iterate (fun parts => do
        if ← sees "," then
          let comma ← leaf .token
          if (← seesAny ["\x7d", "=", ":"]) || (← peek).kind == .typeConversion then
            return some (parts ++ comma)
          else return some (parts ++ comma ++ (← child (element self)))
        else return none) first
      node .expressionList items
    else pure first
  let equals ← accept "="
  let conversion ← if (← peek).kind == .typeConversion then leaf .typeConversion else pure []
  let specification ← if ← sees ":" then do
      let colon ← leaf .token
      let pieces ← iterate (fun parts => do
        if (← peek).kind == .formatText then return some (parts ++ (← leaf .token))
        else if ← sees "\x7b" then return some (parts ++ (← child (self .replacementField)))
        else return none) colon
      node .formatSpecifier pieces
    else pure []
  grow .interpolation (start ++ value ++ equals ++ conversion ++ specification) (expect "\x7d")

def stringLiteral : Parser Parts := do
  if (← peek).kind != .stringStart then failure
  let start ← leaf .stringStart
  let body ← iterate (fun parts => do
    let t ← peek
    if t.kind == .stringContent then return some (parts ++ (← leaf .stringContent))
    else if Token.isText t "\x7b" then return some (parts ++ (← child (self .replacementField)))
    else return none) start
  if (← peek).kind == .stringEnd then grow .string body (leaf .stringEnd) else failure

def strings : Parser Parts := do
  let first ← stringLiteral self
  if (← peek).kind == .stringStart then
    let all ← iterate (fun parts => do
      if (← peek).kind == .stringStart then return some (parts ++ (← child (stringLiteral self)))
      else return none) first
    node .concatenatedString all
  else return first

def wordAtom (t : Token) : Parser Parts :=
  if t.text == "True" then leaf .trueLiteral
  else if t.text == "False" then leaf .falseLiteral
  else if t.text == "None" then leaf .noneLiteral
  else identifier

def atom : Parser Parts := do
  let t ← peek
  match t.kind with
  | .word => wordAtom t
  | .integer => leaf .integer
  | .float => leaf .float
  | .stringStart => strings self
  | .mark =>
    if t.text == "(" then parenthesized self
    else if t.text == "[" then listDisplay self
    else if t.text == "\x7b" then braceDisplay self
    else if t.text == "..." then leaf .ellipsis
    else failure
  | _ => failure

def trailer (value : Parts) : Parser (Option Parts) := do
  let t ← peek
  if Token.isText t "(" then
    let arguments ← fieldChild .arguments (arguments self)
    return some (← node .call (labelled .function value ++ arguments))
  else if Token.isText t "." then
    let dot ← leaf .token
    let name ← fieldChild .attribute anyWord
    return some (← node .attribute (labelled .object value ++ dot ++ name))
  else if Token.isText t "[" then
    let start ← leaf .token
    let items ← commaList (slicePart self) (sees "]")
    if items.isEmpty then failure
    let stop ← expect "]"
    return some (← node .subscript (labelled .value value ++ start ++ items ++ stop))
  else return none

def primary : Parser Parts := do
  iterate (trailer self) (← atom self)

def startsValue (t : Token) : Bool :=
  match t.kind with
  | .word => !keywords.contains t.text
  | .integer | .float | .stringStart => true
  | .mark => ["(", "[", "\x7b", "..."].contains t.text
  | _ => false

def factor : Parser Parts := do
  let t ← peek
  if t.kind == .mark && ["+", "-", "~"].contains t.text then
    let sign ← leaf .token
    grow .unaryOperator sign (child (self .factor))
  else if Token.isText t "await" && startsValue (← peekSecond) then
    let word ← leaf .token
    grow .await word (child (self .factor))
  else
    let base ← primary self
    if ← sees "**" then
      let operator ← leaf .token
      grow .binaryOperator (labelled .left base ++ operator) (fieldChild .right (self .factor))
    else return base

def leftGrouped (operators : List String) (operand : Parser Parts) : Parser Parts := do
  iterate (fun left => do
    let t ← peek
    if t.kind == .mark && operators.contains t.text then
      let operator ← leaf .token
      let right ← fieldChild .right operand
      return some (← node .binaryOperator (labelled .left left ++ operator ++ right))
    else return none) (← operand)

def arithmetic : Parser Parts :=
  leftGrouped ["|"] <| leftGrouped ["&"] <| leftGrouped ["^"] <| leftGrouped ["<<", ">>"] <|
    leftGrouped ["+", "-"] <| leftGrouped ["*", "@", "/", "%", "//"] (factor self)

def comparator : Parser (Option Parts) := do
  let t ← peek
  if t.kind == .mark && ["<", "<=", "==", "!=", ">=", ">", "<>"].contains t.text then
    return some (← leaf .token)
  else if Token.isText t "in" then return some (← leaf .token)
  else if Token.isText t "is" then
    let word ← leaf .token
    return some (word ++ (← accept "not"))
  else if Token.isText t "not" then
    if Token.isText (← peekSecond) "in" then
      let word ← leaf .token
      return some (word ++ (← expect "in"))
    else return none
  else return none

def comparison : Parser Parts := do
  let first ← arithmetic self
  let parts ← iterate (fun parts => do
    match ← comparator with
    | some operator => return some (parts ++ operator ++ (← child (arithmetic self)))
    | none => return none) first
  if parts.length == first.length then return first else node .comparisonOperator parts

def negation : Parser Parts := do
  if ← sees "not" then
    let word ← leaf .token
    grow .notOperator word (child (self .negation))
  else comparison self

def booleanGroup (word : String) (operand : Parser Parts) : Parser Parts := do
  iterate (fun left => do
    if ← sees word then
      let operator ← leaf .token
      let right ← fieldChild .right operand
      return some (← node .booleanOperator (labelled .left left ++ operator ++ right))
    else return none) (← operand)

def splatParameter (kind : Kind) (mark : String) : Parser Parts := splat kind mark anyWord

def annotation : Option (Parser Parts) → Parser Parts
  | none => return []
  | some type => do
    if ← sees ":" then
      let colon ← leaf .token
      return colon ++ (← fieldChild .type type)
    else return []

def parameter (typed : Option (Parser Parts)) : Parser Parts := do
  let t ← peek
  if Token.isText t "/" then leaf .positionalSeparator
  else if Token.isText t "(" then self .parameterTuple
  else
    let second ← peekSecond
    if Token.isText t "*" && second.kind != .word then leaf .keywordSeparator
    else
      let name ←
        if Token.isText t "*" then splatParameter .listSplatPattern "*"
        else if Token.isText t "**" then splatParameter .dictionarySplatPattern "**"
        else anyWord
      let annotation ← annotation typed
      if ← sees "=" then
        let equals ← leaf .token
        let value ← fieldChild .value (self .expression)
        let kind := if annotation.isEmpty then Kind.defaultParameter else .typedDefaultParameter
        node kind (labelled .name name ++ annotation ++ equals ++ value)
      else if annotation.isEmpty then return name
      else node .typedParameter (name ++ annotation)

def parameterTuple : Parser Parts := do
  let start ← expect "("
  let items ← commaList (parameter self none) (sees ")")
  grow .tuplePattern (start ++ items) (expect ")")

def lambdaExpression (body : Goal) : Parser Parts := do
  let word ← expect "lambda"
  let parameters ← if ← sees ":" then pure [] else do
      let before ← trivia
      let items ← commaList (parameter self none) (sees ":")
      pure (before ++ labelled .parameters (← node .lambdaParameters items))
  let colon ← expect ":"
  grow .lambda (word ++ parameters ++ colon) (fieldChild .body (self body))

def disjunction : Parser Parts := do
  if ← sees "lambda" then lambdaExpression self .disjunction
  else
    let value ← booleanGroup "or" (booleanGroup "and" (negation self))
    if lastKind value == some .identifier then
      if ← sees ":=" then
        let mark ← leaf .token
        grow .namedExpression (labelled .name value ++ mark)
          (fieldChild .value (self .expression))
      else return value
    else return value

def expression : Parser Parts := do
  if ← sees "lambda" then lambdaExpression self .expression
  else
    let value ← disjunction self
    if ← sees "if" then
      let word ← leaf .token
      let condition ← child (self .disjunction)
      let otherwise ← expect "else"
      grow .conditionalExpression (value ++ word ++ condition ++ otherwise)
        (child (self .expression))
    else return value

def namedByAs : Parser Parts := do
  perhapsNamed self (← expression self)

def expressionItems (item : Parser Parts) (first : Parts) : Parser Parts :=
  iterate (fun parts => do
    if ← sees "," then
      let comma ← leaf .token
      if endsExpression [")", "]", "\x7d", "=", ";", ":"] (← peek) then return some (parts ++ comma)
      else return some (parts ++ comma ++ (← child item))
    else return none) first

def expressions : Parser Parts := do
  let first ← element self
  if ← sees "," then node .expressionList (← expressionItems (element self) first)
  else return first

def typeExpression : Parser Parts := do
  if ← sees "*" then node .type (← splat .splatType "*" identifier)
  else node .type (← self .expression)

end TestTwins.Python.Grammar
