import TestTwins.Python.Identifier
import TestTwins.Python.Node

/-! Tokens of Python source. Comments and line continuations are not tokens of their own: they stand
before the token that follows them. The end of a line carries the indentation of the next line that has
code on it, so blank lines and lines with only a comment leave no trace. -/

namespace TestTwins.Python

structure Part where
  node : Node
  start : Nat
  stop : Nat
  deriving Inhabited

inductive TokenKind
  | word
  | integer
  | float
  | mark
  | stringStart
  | stringContent
  | stringEnd
  | typeConversion
  | formatText
  | newline (indentation : Nat)
  | unknown
  | eof
  deriving DecidableEq, Repr, Inhabited

structure Token where
  kind : TokenKind
  text : String
  line : Nat
  start : Nat
  stop : Nat
  trivia : List Part
  deriving Inhabited

namespace Lexer

inductive Mode
  | text (quote : Char) (triple raw format : Bool)
  | field (brackets : Nat)
  | specification
  deriving DecidableEq, Repr

structure State where
  rest : List Char
  offset : Nat
  line : Nat
  modes : List Mode

def newlines (cs : List Char) : Nat := cs.count '\n'

def State.skip (s : State) (n : Nat) : State :=
  { s with
    rest := s.rest.drop n
    offset := s.offset + n
    line := s.line + newlines (s.rest.take n) }

def triviaPart (kind : Kind) (s : State) (n : Nat) : Part :=
  ⟨⟨kind, none, s.line, String.ofList (s.rest.take n), []⟩, s.offset, s.offset + n⟩

def lineLength (cs : List Char) : Nat := (cs.takeWhile (· != '\n')).length

def continuationLength : List Char → Nat
  | '\\' :: '\n' :: _ => 2
  | '\\' :: '\r' :: '\n' :: _ => 3
  | ['\\'] => 1
  | _ => 0

/-- Reads on to the next line that has code, with its indentation and the comments in between. A tab
counts as eight blanks. -/
def lineStart : Nat → Nat → List Part → State → Nat × List Part × State
  | 0, indentation, trivia, s => (indentation, trivia, s)
  | steps + 1, indentation, trivia, s =>
    match s.rest with
    | [] => (0, trivia, s)
    | ' ' :: _ => lineStart steps (indentation + 1) trivia (s.skip 1)
    | '\t' :: _ => lineStart steps (indentation + 8) trivia (s.skip 1)
    | '\n' :: _ => lineStart steps 0 trivia (s.skip 1)
    | '\r' :: _ => lineStart steps 0 trivia (s.skip 1)
    | '\x0c' :: _ => lineStart steps 0 trivia (s.skip 1)
    | '#' :: _ =>
      let n := lineLength s.rest
      lineStart steps indentation (trivia ++ [triviaPart .comment s n]) (s.skip n)
    | _ =>
      let n := continuationLength s.rest
      if n == 0 then (indentation, trivia, s) else lineStart steps indentation trivia (s.skip n)

def isBlank (c : Char) : Bool :=
  c == ' ' || c == '\t' || c == '\r' || c == '\x0c' || c == '\x0b' || c == '\u00a0' ||
    c == '\u2060' || c == '\u200b' || c == '\ufeff' || c == '\u3000' || c == '\u1680' ||
    ('\u2000' ≤ c && c ≤ '\u200a') || c == '\u2028' || c == '\u2029' || c == '\u202f' ||
    c == '\u205f' || c == '\x85'

def isStringLetter (c : Char) : Bool := "fFrRbBuU".toList.contains c

def isQuote (c : Char) : Bool := c == '"' || c.toNat == 0x27 || c.toNat == 0x60

def stringOpening (cs : List Char) : Option (Nat × Mode) :=
  let letters := cs.takeWhile isStringLetter
  match cs.drop letters.length with
  | q :: rest =>
    if isQuote q then
      let triple := q.toNat != 0x60 && rest.take 2 == [q, q]
      let has (a b : Char) := letters.any fun c => c == a || c == b
      some (letters.length + (if triple then 3 else 1), .text q triple (has 'r' 'R') (has 'f' 'F'))
    else none
  | [] => none

def longMarks : List String :=
  ["**=", "//=", ">>=", "<<=", "...", "**", "//", ">>", "<<", "<=", ">=", "==", "!=", "->", "+=",
   "-=", "*=", "/=", "%=", "&=", "|=", "^=", "@=", ":=", "<>"]

def shortMarks : List Char := "()[]\x7b\x7d:,.;=+-*/%@&|^~<>".toList

def markLength (cs : List Char) : Nat :=
  match longMarks.find? fun m => m.toList.isPrefixOf cs with
  | some m => m.length
  | none =>
    match cs with
    | c :: _ => if shortMarks.contains c then 1 else 0
    | [] => 0

def digitsLength (isDigit : Char → Bool) : List Char → Nat
  | c :: d :: rest =>
    if isDigit c then 1 + digitsLength isDigit (d :: rest)
    else if c == '_' && isDigit d then 2 + digitsLength isDigit rest
    else 0
  | [c] => if isDigit c then 1 else 0
  | [] => 0

def exponentLength (cs : List Char) : Nat :=
  match cs with
  | e :: rest =>
    if e == 'e' || e == 'E' then
      let sign := match rest with
        | c :: _ => if c == '+' || c == '-' then 1 else 0
        | [] => 0
      let digits := digitsLength Char.isDigit (rest.drop sign)
      if digits == 0 then 0 else 1 + sign + digits
    else 0
  | [] => 0

def suffixLength (letters : List Char) (cs : List Char) : Nat :=
  match cs with
  | c :: _ => if letters.contains c then 1 else 0
  | [] => 0

def isHexDigit (c : Char) : Bool := c.isDigit || ('a' ≤ c && c ≤ 'f') || ('A' ≤ c && c ≤ 'F')

def isBaseDigit (letter c : Char) : Bool :=
  if letter == 'x' || letter == 'X' then isHexDigit c
  else if letter == 'o' || letter == 'O' then '0' ≤ c && c ≤ '7'
  else if letter == 'b' || letter == 'B' then c == '0' || c == '1'
  else false

def numberLength (cs : List Char) : Nat × TokenKind :=
  match cs with
  | '0' :: x :: rest =>
    match digitsLength (isBaseDigit x) rest with
    | 0 => decimal
    | n + 1 => (n + 3 + suffixLength ['l', 'L'] (cs.drop (n + 3)), .integer)
  | _ => decimal
where
  decimal : Nat × TokenKind :=
    let whole := digitsLength Char.isDigit cs
    let fraction := match cs.drop whole with
      | '.' :: rest => 1 + digitsLength Char.isDigit rest
      | _ => 0
    let exponent := exponentLength (cs.drop (whole + fraction))
    let n := whole + fraction + exponent
    if fraction == 0 && exponent == 0 then
      (n + suffixLength ['l', 'L', 'j', 'J'] (cs.drop n), .integer)
    else (n + suffixLength ['j', 'J', 'l', 'L'] (cs.drop n), .float)

def token (kind : TokenKind) (s : State) (n : Nat) (trivia : List Part) : Token :=
  ⟨kind, String.ofList (s.rest.take n), s.line, s.offset, s.offset + n, trivia⟩

/-- The length of text in a string up to its end, a replacement field or the end of the line. A
backslash takes the next character with it, unless that one opens a field. -/
def contentLength (quote : Char) (triple raw format : Bool) : Nat → List Char → Nat
  | 0, _ => 0
  | steps + 1, cs =>
    match cs with
    | [] => 0
    | '\\' :: c :: rest =>
      if format && !raw && c == 'N' && rest.head? == some '{' then
        let name := (rest.takeWhile (· != '}')).length + 1
        2 + name + contentLength quote triple raw format steps (rest.drop name)
      else if format && (c == '{' || c == '}') then
        1 + contentLength quote triple raw format steps (c :: rest)
      else 2 + contentLength quote triple raw format steps rest
    | '{' :: '{' :: rest =>
      if format then 2 + contentLength quote triple raw format steps rest
      else 1 + contentLength quote triple raw format steps ('{' :: rest)
    | '{' :: rest =>
      if format then 0 else 1 + contentLength quote triple raw format steps rest
    | '\n' :: rest =>
      if triple then 1 + contentLength quote triple raw format steps rest else 0
    | c :: rest =>
      if c == quote && (!triple || rest.take 2 == [quote, quote]) then 0
      else 1 + contentLength quote triple raw format steps rest

inductive Output
  | token (t : Token)
  | trivia (p : Part)
  | nothing

def stringStep (quote : Char) (triple raw format : Bool) (outer : List Mode) (trivia : List Part)
    (s : State) : Output × State :=
  let n := contentLength quote triple raw format (s.rest.length + 1) s.rest
  if n != 0 then (.token (token .stringContent s n trivia), s.skip n)
  else
    match s.rest with
    | '{' :: _ =>
      (.token (token .mark s 1 trivia), { s.skip 1 with modes := .field 0 :: s.modes })
    | c :: _ =>
      if c == quote then
        let n := if triple then 3 else 1
        (.token (token .stringEnd s n trivia), { s.skip n with modes := outer })
      else (.token (token .unknown s 0 trivia), { s with modes := outer })
    | [] => (.token (token .unknown s 0 trivia), { s with modes := outer })

def specificationStep (outer : List Mode) (trivia : List Part) (s : State) : Output × State :=
  let n := (s.rest.takeWhile fun c => c != '{' && c != '}').length
  if n != 0 then (.token (token .formatText s n trivia), s.skip n)
  else
    match s.rest with
    | '{' :: _ =>
      (.token (token .mark s 1 trivia), { s.skip 1 with modes := .field 0 :: s.modes })
    | _ => (.token (token .mark s 1 trivia), { s.skip 1 with modes := outer.drop 1 })

def isOpening (c : Char) : Bool := c == '(' || c == '[' || c == '{'

def isClosing (c : Char) : Bool := c == ')' || c == ']' || c == '}'

/-- How a mark changes the mode: brackets inside a replacement field are counted, and outside of them a
closing brace ends the field and a colon starts its format specification. -/
def afterMark (c : Char) : List Mode → List Mode
  | .field n :: outer =>
    if isOpening c then .field (n + 1) :: outer
    else if isClosing c then if n == 0 then outer else .field (n - 1) :: outer
    else if c == ':' && n == 0 then .specification :: .field n :: outer
    else .field n :: outer
  | modes => modes

def inField : List Mode → Bool
  | .field 0 :: _ => true
  | _ => false

/-- Strings and line ends take no line continuation before them. -/
def withoutContinuations (trivia : List Part) : List Part :=
  trivia.filter (·.node.kind != .lineContinuation)

def codeStep (trivia : List Part) (s : State) : Output × State :=
  match s.rest with
  | [] => (.nothing, s)
  | c :: rest =>
    if isBlank c then (.nothing, s.skip 1)
    else if c == '#' then
      let n := lineLength s.rest
      (.trivia (triviaPart .comment s n), s.skip n)
    else if continuationLength s.rest != 0 then
      let n := continuationLength s.rest
      (.trivia (triviaPart .lineContinuation s n), s.skip n)
    else match stringOpening s.rest with
      | some (n, mode) =>
        (.token (token .stringStart s n (withoutContinuations trivia)),
          { s.skip n with modes := mode :: s.modes })
      | none =>
        if Identifier.isStart c then
          let n := (s.rest.takeWhile Identifier.isContinue).length
          (.token (token .word s n trivia), s.skip n)
        else if c.isDigit || (c == '.' && (rest.head?.any Char.isDigit)) then
          let (n, kind) := numberLength s.rest
          (.token (token kind s n trivia), s.skip n)
        else if c == '!' && inField s.modes && rest.head?.any Char.isAlpha then
          (.token (token .typeConversion s 2 trivia), s.skip 2)
        else
          let n := if c == ':' && inField s.modes then 1 else markLength s.rest
          if n == 0 then (.token (token .unknown s 1 trivia), s.skip 1)
          else
            (.token (token .mark s n trivia), { s.skip n with modes := afterMark c s.modes })

def step (trivia : List Part) (s : State) : Output × State :=
  match s.modes with
  | .text quote triple raw format :: outer => stringStep quote triple raw format outer trivia s
  | .specification :: outer => specificationStep outer trivia s
  | _ => codeStep trivia s

def run : Nat → List Part → State → List Token
  | 0, _, _ => []
  | steps + 1, trivia, s =>
    match s.rest, s.modes.head? with
    | [], _ =>
      [token (.newline 0) s 0 (withoutContinuations trivia), token .eof s 0 []]
    | '\n' :: _, none =>
      let (indentation, comments, after) := lineStart (s.rest.length + 1) 0 [] (s.skip 1)
      token (.newline indentation) s 0 (withoutContinuations trivia) :: run steps comments after
    | '\n' :: _, some (.field _) => run steps trivia (s.skip 1)
    | _, _ =>
      match step trivia s with
      | (.token t, s) => t :: run steps [] s
      | (.trivia p, s) => run steps (trivia ++ [p]) s
      | (.nothing, s) => run steps trivia s

end Lexer

def tokenize (source : List Char) : List Token :=
  let fuel := 2 * source.length + 2
  let (_, comments, s) := Lexer.lineStart fuel 0 [] ⟨source, 0, 1, []⟩
  Lexer.run fuel comments s

end TestTwins.Python
