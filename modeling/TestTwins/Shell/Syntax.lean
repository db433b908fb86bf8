namespace TestTwins.Shell

inductive Piece
  | text (s : String)
  | parameter (name : String) (quoted : Bool)
  | output (script : String) (quoted : Bool)
  | number (term : String)
  deriving DecidableEq, Repr

abbrev Word := List Piece

inductive Redirect
  | write (stream : Nat) (append : Bool) (target : Word)
  | read (source : Word)
  | here (text : Word)
  | copy (stream other : Nat)
  deriving DecidableEq, Repr

inductive Command
  | nothing
  | simple (assignments : List (String × Word)) (words : List Word)
  | redirected (command : Command) (redirects : List Redirect)
  | sequence (first second : Command)
  | both (first second : Command)
  | either (first second : Command)
  | pipe (first second : Command)
  | negate (command : Command)
  | choose (condition yes no : Command)
  | loop (condition : Command) (wanted : Bool) (body : Command)
  | each (name : String) (words : List Word) (body : Command)
  deriving Repr

inductive Token
  | word (w : Word)
  | mark (text : String)
  deriving DecidableEq, Repr

structure Script where
  tokens : List Token
  texts : List Word

namespace Reader

def addText (w : Word) (s : String) : Word :=
  match w.getLast? with
  | some (.text t) => w.dropLast ++ [.text (t ++ s)]
  | _ => w ++ [.text s]

def isNameStart (c : Char) : Bool := c.isAlpha || c == '_'

def isNameChar (c : Char) : Bool := c.isAlphanum || c == '_'

def balanced (depth : Nat) : List Char → Option (List Char × List Char)
  | [] => none
  | '(' :: rest => (balanced (depth + 1) rest).map fun (a, b) => ('(' :: a, b)
  | ')' :: rest =>
    match depth with
    | 0 => some ([], rest)
    | depth + 1 => (balanced depth rest).map fun (a, b) => (')' :: a, b)
  | c :: rest => (balanced depth rest).map fun (a, b) => (c :: a, b)

def upTo (stop : Char) : List Char → Option (List Char × List Char)
  | [] => none
  | c :: rest =>
    if c == stop then some ([], rest) else (upTo stop rest).map fun (a, b) => (c :: a, b)

/-- What is written for `(…)` after a dollar sign: a number if there are two parentheses, else the output
of a script. -/
def enclosed (quoted : Bool) (cs : List Char) : Piece :=
  match cs with
  | '(' :: term =>
    if term.getLast? == some ')' then .number (String.ofList term.dropLast)
    else .output (String.ofList cs) quoted
  | _ => .output (String.ofList cs) quoted

def dollar (quoted : Bool) (cs : List Char) : Option (Piece × List Char) :=
  match cs with
  | [] => some (.text "$", [])
  | c :: rest =>
    if c == '(' then (balanced 0 rest).map fun (s, rest) => (enclosed quoted s, rest)
    else if c == '\x7b' then
      (upTo '\x7d' rest).map fun (s, rest) => (.parameter (String.ofList s) quoted, rest)
    else if isNameStart c then
      some (.parameter (String.ofList (cs.takeWhile isNameChar)) quoted, cs.dropWhile isNameChar)
    else if c.isDigit || "#@*?$!".toList.contains c then
      some (.parameter (String.singleton c) quoted, rest)
    else some (.text "$", cs)

def isBreak (c : Char) : Bool := " \t\n;&|<>()".toList.contains c

def word : Nat → Bool → Word → List Char → Option (Word × List Char)
  | 0, _, _, _ => none
  | n + 1, quoted, w, cs =>
    match cs with
    | [] => if quoted then none else some (w, [])
    | '\\' :: '\n' :: rest => word n quoted w rest
    | '\\' :: c :: rest =>
      let kept := quoted && !("$\x60\"\\".toList.contains c)
      word n quoted (addText w ((if kept then "\\" else "") ++ String.singleton c)) rest
    | '$' :: rest => do
      let (p, rest) ← dollar quoted rest
      word n quoted (w ++ [p]) rest
    | '"' :: rest => if quoted then word n false (addText w "") rest else word n true (addText w "") rest
    | c :: rest =>
      if c == '\x60' then do
        let (s, rest) ← upTo '\x60' rest
        word n quoted (w ++ [.output (String.ofList s) quoted]) rest
      else if c == '\x27' && !quoted then do
        let (s, rest) ← upTo '\x27' rest
        word n quoted (addText w (String.ofList s)) rest
      else if isBreak c && !quoted then some (w, cs)
      else word n quoted (addText w (String.singleton c)) rest

def body : Nat → Word → List Char → Word
  | 0, w, _ => w
  | n + 1, w, cs =>
    match cs with
    | [] => w
    | '\\' :: '\n' :: rest => body n w rest
    | '\\' :: c :: rest =>
      let kept := !("$\x60\\".toList.contains c)
      body n (addText w ((if kept then "\\" else "") ++ String.singleton c)) rest
    | '$' :: rest =>
      match dollar true rest with
      | some (p, rest) => body n (w ++ [p]) rest
      | none => body n (addText w "$") rest
    | c :: rest => body n (addText w (String.singleton c)) rest

def linesUpTo (stop : List Char) : Nat → List Char → List Char × List Char
  | 0, cs => ([], cs)
  | _, [] => ([], [])
  | n + 1, cs =>
    let line := cs.takeWhile (· != '\n')
    let rest := (cs.dropWhile (· != '\n')).drop 1
    if line == stop then ([], rest)
    else
      let (more, after) := linesUpTo stop n rest
      (line ++ '\n' :: more, after)

structure Pending where
  stop : List Char
  isLiteral : Bool

def takeTexts : List Pending → List Char → List Word × List Char
  | [], cs => ([], cs)
  | p :: ps, cs =>
    let (text, rest) := linesUpTo p.stop cs.length cs
    let w := if p.isLiteral then [.text (String.ofList text)] else body text.length [] text
    let (ws, rest) := takeTexts ps rest
    (w :: ws, rest)

def plainText (w : Word) : String :=
  String.join (w.map fun
    | .text s => s
    | _ => "")

def marks : List String := ["&&", "||", ">>", ">&", "<&", "<<", ";", "&", "|", "<", ">", "(", ")"]

def mark? (cs : List Char) : Option (String × List Char) :=
  let find (cs : List Char) := (marks.find? fun m => m.toList.isPrefixOf cs).map fun m =>
    (m, cs.drop m.length)
  match cs with
  | c :: d :: rest =>
    if c.isDigit && (d == '<' || d == '>') then
      (find (d :: rest)).map fun (m, rest) => (String.singleton c ++ m, rest)
    else find cs
  | _ => find cs

def isHere (m : String) : Bool := m == "<<" || m == "0<<"

def tokens : Nat → List Pending → List Char → Option Script
  | 0, _, _ => none
  | n + 1, pending, cs =>
    match cs with
    | [] => some ⟨[], []⟩
    | '\n' :: rest => do
      let (texts, rest) := takeTexts pending rest
      let s ← tokens n [] rest
      return ⟨.mark "\n" :: s.tokens, texts ++ s.texts⟩
    | '\\' :: '\n' :: rest => tokens n pending rest
    | c :: rest =>
      if c == ' ' || c == '\t' then tokens n pending rest
      else if c == '#' then tokens n pending (rest.dropWhile (· != '\n'))
      else
        match mark? cs with
        | some (m, rest) =>
          if isHere m then do
            let rest := rest.dropWhile (· == ' ')
            let (w, after) ← word (rest.length + 1) false [] rest
            let raw := rest.take (rest.length - after.length)
            let isLiteral := raw.any fun c => c == '"' || c == '\x27' || c == '\\'
            let s ← tokens n (pending ++ [⟨(plainText w).toList, isLiteral⟩]) after
            return ⟨.mark "<<" :: s.tokens, s.texts⟩
          else do
            let s ← tokens n pending rest
            return ⟨.mark m :: s.tokens, s.texts⟩
        | none => do
          let (w, rest) ← word (cs.length + 1) false [] cs
          let s ← tokens n pending rest
          return ⟨.word w :: s.tokens, s.texts⟩

abbrev Step := StateT Script Option

def peek : Step (Option Token) := return (← get).tokens.head?

def advance : Step Unit := modify fun s => { s with tokens := s.tokens.drop 1 }

def seesMark (m : String) : Step Bool := return (← peek) == some (.mark m)

def seesWord (text : String) : Step Bool := return (← peek) == some (.word [.text text])

def expectWord (text : String) : Step Unit := do
  if ← seesWord text then advance else failure

def skipLines (n : Nat) : Step Unit := do
  match n with
  | 0 => return ()
  | n + 1 =>
    if (← seesMark "\n") || (← seesMark ";") then
      advance
      skipLines n

def nextWord : Step Word := do
  match ← peek with
  | some (.word w) =>
    advance
    return w
  | _ => failure

def nextText : Step Word := do
  let s ← get
  match s.texts with
  | w :: rest =>
    set { s with texts := rest }
    return w
  | [] => failure

def redirect? (m : String) : Option (Step Redirect) :=
  let (stream, m) := match m.toList with
    | c :: rest => if c.isDigit then (some (c.toNat - '0'.toNat), String.ofList rest) else (none, m)
    | [] => (none, m)
  let copy (default : Nat) : Step Redirect := do
    match (plainText (← nextWord)).toNat? with
    | some other => return .copy (stream.getD default) other
    | none => failure
  if m == ">" then some (do return .write (stream.getD 1) false (← nextWord))
  else if m == ">>" then some (do return .write (stream.getD 1) true (← nextWord))
  else if m == "<" then some (do return .read (← nextWord))
  else if m == "<<" then some (do return .here (← nextText))
  else if m == ">&" then some (copy 1)
  else if m == "<&" then some (copy 0)
  else none

def assignment? : Word → Option (String × Word)
  | .text s :: rest =>
    let name := s.toList.takeWhile isNameChar
    match s.toList.drop name.length with
    | '=' :: value =>
      if name.head?.any isNameStart then
        some (String.ofList name,
          (if value.isEmpty then [] else [.text (String.ofList value)]) ++ rest)
      else none
    | _ => none
  | _ => none

def parts : Nat → Step (List Word × List Redirect)
  | 0 => failure
  | n + 1 => do
    match ← peek with
    | some (.word w) =>
      advance
      let (ws, rs) ← parts n
      return (w :: ws, rs)
    | some (.mark m) =>
      match redirect? m with
      | some step =>
        advance
        let r ← step
        let (ws, rs) ← parts n
        return (ws, r :: rs)
      | none => return ([], [])
    | none => return ([], [])

def withRedirects (c : Command) (rs : List Redirect) : Command :=
  if rs.isEmpty then c else .redirected c rs

def splitAssignments : List Word → List (String × Word) × List Word
  | [] => ([], [])
  | w :: rest =>
    match assignment? w with
    | some a =>
      let (as, ws) := splitAssignments rest
      (a :: as, ws)
    | none => ([], w :: rest)

def simple (turns : Nat) : Step Command := do
  let (ws, rs) ← parts turns
  if ws.isEmpty && rs.isEmpty then failure
  else
    let (as, ws) := splitAssignments ws
    return withRedirects (.simple as ws) rs

def endings : List String := ["then", "elif", "else", "fi", "do", "done", "\x7d"]

def atEnding : Step Bool := do
  match ← peek with
  | none => return true
  | some (.mark m) => return m == ")"
  | some (.word w) => return endings.any fun e => w == [.text e]

mutual

def list : Nat → Step Command
  | 0 => failure
  | n + 1 => do
    skipLines n
    if ← atEnding then return .nothing
    else
      let first ← chain n
      if (← seesMark ";") || (← seesMark "\n") || (← seesMark "&") then
        advance
        return .sequence first (← list n)
      else if ← atEnding then return first
      else failure

def chain : Nat → Step Command
  | 0 => failure
  | n + 1 => do chainFrom n (← pipeline n)

def chainFrom : Nat → Command → Step Command
  | 0, _ => failure
  | n + 1, c => do
    if ← seesMark "&&" then
      advance
      skipLines n
      chainFrom n (.both c (← pipeline n))
    else if ← seesMark "||" then
      advance
      skipLines n
      chainFrom n (.either c (← pipeline n))
    else return c

def pipeline : Nat → Step Command
  | 0 => failure
  | n + 1 => do
    if ← seesWord "!" then
      advance
      return .negate (← pipeline n)
    else
      let first ← command n
      if ← seesMark "|" then
        advance
        skipLines n
        return .pipe first (← pipeline n)
      else return first

def command : Nat → Step Command
  | 0 => failure
  | n + 1 => do
    match ← compound n with
    | none => simple n
    | some c =>
      let (ws, rs) ← parts n
      if ws.isEmpty then return withRedirects c rs else failure

def compound : Nat → Step (Option Command)
  | 0 => failure
  | n + 1 => do
    if ← seesWord "if" then
      advance
      return some (← branch n)
    else if ← seesWord "while" then
      advance
      return some (← repetition n true)
    else if ← seesWord "until" then
      advance
      return some (← repetition n false)
    else if ← seesWord "for" then
      advance
      return some (← iteration n)
    else if ← seesWord "\x7b" then
      advance
      let c ← list n
      expectWord "\x7d"
      return some c
    else if ← seesMark "(" then
      advance
      let c ← list n
      if ← seesMark ")" then
        advance
        return some c
      else failure
    else return none

def branch : Nat → Step Command
  | 0 => failure
  | n + 1 => do
    let condition ← list n
    expectWord "then"
    let yes ← list n
    if ← seesWord "elif" then
      advance
      return .choose condition yes (← branch n)
    else if ← seesWord "else" then
      advance
      let no ← list n
      expectWord "fi"
      return .choose condition yes no
    else
      expectWord "fi"
      return .choose condition yes .nothing

def repetition : Nat → Bool → Step Command
  | 0, _ => failure
  | n + 1, wanted => do
    let condition ← list n
    expectWord "do"
    let body ← list n
    expectWord "done"
    return .loop condition wanted body

def iteration : Nat → Step Command
  | 0 => failure
  | n + 1 => do
    let name := plainText (← nextWord)
    let words ← if ← seesWord "in" then do
        advance
        pure (← parts n).1
      else pure [[.parameter "@" true]]
    skipLines n
    expectWord "do"
    let body ← list n
    expectWord "done"
    return .each name words body

end

end Reader

def parse? (script : String) : Option Command := do
  let cs := script.toList
  let s ← Reader.tokens (cs.length + 1) [] cs
  let (c, rest) ← (Reader.list (8 * s.tokens.length + 16)).run s
  if rest.tokens.isEmpty then some c else none

end TestTwins.Shell
