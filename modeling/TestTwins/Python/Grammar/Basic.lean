import TestTwins.Python.Token

/-! Reading a list of tokens into nodes. A production gathers the parts of its node from left to right;
what stands before a token goes to the innermost node that has already begun. While a bracket is open,
line ends do not count.

Productions do not call themselves: they are given `self`, which reads any of the recursive goals, and
the knot is tied once by recursion on the number of tokens. -/

namespace TestTwins.Python.Grammar

structure Input where
  source : Array Char
  tokens : List Token
  brackets : Nat
  indentation : Nat
  /-- More than the number of tokens: no repetition takes that many turns. -/
  turns : Nat

abbrev Parser := StateT Input Option

abbrev Parts := List Part

inductive Goal
  | expression
  | disjunction
  | negation
  | factor
  | rightSide
  | replacementField
  | casePattern
  | simplePattern
  | parameterTuple
  | statement (indentation : Nat)

abbrev Self := Goal → Parser Parts

/-- Line ends do not count while a bracket is open; what stands before them goes to the next token. -/
def skipNewlines (trivia : List Part) : List Token → List Token
  | [] => []
  | t :: rest =>
    match t.kind with
    | .newline _ => skipNewlines (trivia ++ t.trivia) rest
    | _ => { t with trivia := trivia ++ t.trivia } :: rest

def settle : Parser Unit := modify fun s =>
  if s.brackets == 0 then s else { s with tokens := skipNewlines [] s.tokens }

def peek : Parser Token := do
  settle
  match (← get).tokens with
  | t :: _ => return t
  | [] => failure

def peekSecond : Parser Token := do
  settle
  match (← get).tokens with
  | _ :: t :: _ => return t
  | _ => failure

def Token.isText (t : Token) (text : String) : Bool :=
  (t.kind == .word || t.kind == .mark) && t.text == text

def sees (text : String) : Parser Bool := return Token.isText (← peek) text

def seesAny (texts : List String) : Parser Bool := do
  let t ← peek
  return texts.any (Token.isText t)

def trivia : Parser Parts := do
  settle
  let s ← get
  match s.tokens with
  | t :: rest =>
    set { s with tokens := { t with trivia := [] } :: rest }
    return t.trivia
  | [] => return []

def openings : List String := ["(", "[", "\x7b"]

def closings : List String := [")", "]", "\x7d"]

def bracketsAfter (t : Token) (n : Nat) : Nat :=
  if t.kind == .mark && openings.contains t.text then n + 1
  else if t.kind == .mark && closings.contains t.text then n - 1
  else n

def leaf (kind : Kind) : Parser Parts := do
  let before ← trivia
  let s ← get
  match s.tokens with
  | t :: rest =>
    set { s with tokens := rest, brackets := bracketsAfter t s.brackets }
    return before ++ [⟨⟨kind, none, t.line, t.text, []⟩, t.start, t.stop⟩]
  | [] => failure

def expect (text : String) : Parser Parts := do
  if ← sees text then leaf .token else failure

def accept (text : String) : Parser Parts := do
  if ← sees text then leaf .token else return []

def Part.withField (f : Field) (p : Part) : Part := { p with node := { p.node with field := some f } }

def labelled (f : Field) (parts : Parts) : Parts :=
  match parts.reverse with
  | p :: rest => (Part.withField f p :: rest).reverse
  | [] => []

def child (p : Parser Parts) : Parser Parts := do
  let before ← trivia
  return before ++ (← p)

def fieldChild (f : Field) (p : Parser Parts) : Parser Parts := do
  return labelled f (← child p)

def node (kind : Kind) (parts : Parts) : Parser Parts := do
  let s ← get
  match parts.head?, parts.getLast? with
  | some first, some last =>
    let text := String.ofList (s.source.extract first.start last.stop).toList
    return [⟨⟨kind, none, first.node.line, text, parts.map (·.node)⟩, first.start, last.stop⟩]
  | _, _ => failure

def emptyNode (kind : Kind) : Parser Parts := do
  let t ← peek
  return [⟨⟨kind, none, t.line, "", []⟩, t.start, t.start⟩]

def iterate (step : α → Parser (Option α)) (a : α) : Parser α := do
  go (← get).turns a
where
  go : Nat → α → Parser α
    | 0, a => return a
    | n + 1, a => do
      match ← step a with
      | some b => go n b
      | none => return a

def commaList (item : Parser Parts) (closes : Parser Bool) : Parser Parts :=
  iterate (fun parts => do
    if ← closes then return none
    else
      let next ← child item
      let parts := parts ++ next
      if ← sees "," then return some (parts ++ (← leaf .token))
      else if ← closes then return some parts
      else failure) []

def commaSeparated (item : Parser Parts) : Parser Parts := do
  iterate (fun parts => do
    if ← sees "," then
      let comma ← leaf .token
      return some (parts ++ comma ++ (← child item))
    else return none) (← child item)

def keywords : List String :=
  ["and", "as", "assert", "break", "class", "continue", "def", "del", "elif", "else", "except",
   "finally", "for", "from", "global", "if", "import", "in", "is", "lambda", "nonlocal", "not",
   "or", "pass", "raise", "return", "try", "while", "with", "yield"]

def identifier : Parser Parts := do
  let t ← peek
  if t.kind == .word && !keywords.contains t.text then leaf .identifier else failure

/-- Any word: where only a name can stand, every word is one. -/
def anyWord : Parser Parts := do
  if (← peek).kind == .word then leaf .identifier else failure

def lastKind (parts : Parts) : Option Kind := parts.getLast?.map (·.node.kind)

end TestTwins.Python.Grammar
