import TestTwins.Python.Grammar.Expression

namespace TestTwins.Python.Grammar

variable (self : Self)

def dottedName : Parser Parts := do
  let names ← iterate (fun parts => do
    if ← sees "." then
      let dot ← leaf .token
      return some (parts ++ dot ++ (← child anyWord))
    else return none) (← anyWord)
  node .dottedName names

def number : Parser Parts := do
  match (← peek).kind with
  | .integer => leaf .integer
  | .float => leaf .float
  | _ => failure

def numberPattern : Parser Parts := do
  let sign ← accept "-"
  let real ← child number
  if ← seesAny ["+", "-"] then
    let operator ← leaf .token
    grow .complexPattern (sign ++ real ++ operator) (child number)
  else return sign ++ real

def splatPattern (mark : String) : Parser Parts := splat .splatPattern mark anyWord

def classArgument : Parser Parts := do
  let t ← peek
  if t.kind == .word && Token.isText (← peekSecond) "=" then
    let name ← anyWord
    let equals ← leaf .token
    node .casePattern (← grow .keywordPattern (name ++ equals) (child (self .simplePattern)))
  else self .casePattern

def namePattern : Parser Parts := do
  let t ← peek
  if t.text == "True" || t.text == "False" || t.text == "None" then wordAtom t
  else
    let name ← dottedName
    if ← sees "(" then
      let start ← leaf .token
      let items ← commaList (classArgument self) (sees ")")
      grow .classPattern (name ++ start ++ items) (expect ")")
    else return name

def dictEntry : Parser Parts := do
  if ← sees "**" then splatPattern "**"
  else
    let key ← self .simplePattern
    let colon ← expect ":"
    return key ++ colon ++ (← child (self .casePattern))

def closedPattern : Parser Parts := do
  let t ← peek
  match t.kind with
  | .word => namePattern self
  | .integer | .float => numberPattern
  | .stringStart => strings self
  | .mark =>
    if t.text == "-" then numberPattern
    else if t.text == "*" then splatPattern "*"
    else if t.text == "(" then
      let start ← leaf .token
      let items ← commaList (self .casePattern) (sees ")")
      grow .tuplePattern (start ++ items) (expect ")")
    else if t.text == "[" then
      let start ← leaf .token
      let items ← commaList (self .casePattern) (sees "]")
      grow .listPattern (start ++ items) (expect "]")
    else if t.text == "\x7b" then
      let start ← leaf .token
      let items ← commaList (dictEntry self) (sees "\x7d")
      grow .dictPattern (start ++ items) (expect "\x7d")
    else failure
  | _ => failure

def simplePattern : Parser Parts := do
  let first ← closedPattern self
  if ← sees "|" then
    let all ← iterate (fun parts => do
      if ← sees "|" then
        let bar ← leaf .token
        return some (parts ++ bar ++ (← child (closedPattern self)))
      else return none) first
    node .unionPattern all
  else return first

def casePattern : Parser Parts := do
  let pattern ← node .casePattern (← simplePattern self)
  if ← sees "as" then
    let word ← leaf .token
    node .casePattern (← grow .asPattern (pattern ++ word) (child anyWord))
  else return pattern

end TestTwins.Python.Grammar
