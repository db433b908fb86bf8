import TestTwins.Decimal
import TestTwins.Digit
import TestTwins.Toml
import TestTwins.Word

namespace TestTwins.Toml

namespace Reader

abbrev Step (α : Type) := List Char → Option (α × List Char)

def isBlank (c : Char) : Bool := c == ' ' || c == '\t'

def skipBlank (cs : List Char) : List Char := cs.dropWhile isBlank

def newline? : List Char → Option (List Char)
  | '\n' :: rest => some rest
  | '\r' :: '\n' :: rest => some rest
  | _ => none

def isPlain (c : Char) : Bool := c == '\t' || (0x20 ≤ c.toNat && c.toNat != 0x7f)

def lineEnd (cs : List Char) : Option (List Char) :=
  let cs := skipBlank cs
  let cs := match cs with
    | '#' :: rest => rest.dropWhile isPlain
    | _ => cs
  match cs with
  | [] => some []
  | _ => newline? cs

def simpleEscape? : Char → Option Char
  | 'b' => some '\x08'
  | 't' => some '\t'
  | 'n' => some '\n'
  | 'f' => some '\x0c'
  | 'r' => some '\r'
  | '"' => some '"'
  | '\\' => some '\\'
  | _ => none

def ofHex? (cs : List Char) : Option Char := do
  let n ← cs.foldlM (fun n c => (Digit.value? c).map (16 * n + ·)) 0
  if n.isValidChar then some (Char.ofNat n) else none

def withFirst (c : Char) (rest : Option (List Char × List Char)) : Option (List Char × List Char) :=
  rest.map fun (cs, after) => (c :: cs, after)

def basic : List Char → Option (List Char × List Char)
  | [] => none
  | '"' :: rest => some ([], rest)
  | '\\' :: 'u' :: a :: b :: c :: d :: rest =>
    (ofHex? [a, b, c, d]).bind fun x => withFirst x (basic rest)
  | '\\' :: 'U' :: a :: b :: c :: d :: e :: f :: g :: h :: rest =>
    (ofHex? [a, b, c, d, e, f, g, h]).bind fun x => withFirst x (basic rest)
  | '\\' :: c :: rest => (simpleEscape? c).bind fun x => withFirst x (basic rest)
  | c :: rest => if isPlain c && c != '\\' then withFirst c (basic rest) else none

def literal : List Char → Option (List Char × List Char)
  | [] => none
  | c :: rest =>
    if c == '\x27' then some ([], rest)
    else if isPlain c then withFirst c (literal rest) else none

/-- What follows three closing quotes: up to two more of them belong to the text. -/
def closing (quote : Char) : List Char → List Char × List Char
  | a :: b :: rest =>
    if a == quote && b == quote then ([a, b], rest)
    else if a == quote then ([a], b :: rest)
    else ([], a :: b :: rest)
  | [a] => if a == quote then ([a], []) else ([], [a])
  | [] => ([], [])

/-- Text up to three double quotes. A backslash at the end of a line skips all blanks and line breaks up
to the next character. -/
def longBasic (skipping : Bool) : List Char → Option (List Char × List Char)
  | [] => none
  | '\n' :: rest => if skipping then longBasic true rest else withFirst '\n' (longBasic false rest)
  | '\r' :: '\n' :: rest =>
    if skipping then longBasic true rest else withFirst '\n' (longBasic false rest)
  | '"' :: '"' :: '"' :: rest => some (closing '"' rest)
  | '\\' :: 'u' :: a :: b :: c :: d :: rest =>
    (ofHex? [a, b, c, d]).bind fun x => withFirst x (longBasic false rest)
  | '\\' :: 'U' :: a :: b :: c :: d :: e :: f :: g :: h :: rest =>
    (ofHex? [a, b, c, d, e, f, g, h]).bind fun x => withFirst x (longBasic false rest)
  | '\\' :: c :: rest =>
    match simpleEscape? c with
    | some x => withFirst x (longBasic false rest)
    | none =>
      if (newline? (skipBlank (c :: rest))).isSome then longBasic true (c :: rest) else none
  | c :: rest =>
    if skipping && isBlank c then longBasic true rest
    else if isPlain c && c != '\\' then withFirst c (longBasic false rest)
    else none

def longLiteral : List Char → Option (List Char × List Char)
  | [] => none
  | '\n' :: rest => withFirst '\n' (longLiteral rest)
  | '\r' :: '\n' :: rest => withFirst '\n' (longLiteral rest)
  | '\x27' :: '\x27' :: '\x27' :: rest => some (closing '\x27' rest)
  | c :: rest => if isPlain c then withFirst c (longLiteral rest) else none

def skipFirstBreak (cs : List Char) : List Char := (newline? cs).getD cs

def quoted? : List Char → Option (String × List Char)
  | '"' :: '"' :: '"' :: rest => finish (longBasic false (skipFirstBreak rest))
  | '"' :: rest => finish (basic rest)
  | '\x27' :: '\x27' :: '\x27' :: rest => finish (longLiteral (skipFirstBreak rest))
  | '\x27' :: rest => finish (literal rest)
  | _ => none
where
  finish (result : Option (List Char × List Char)) : Option (String × List Char) :=
    result.map fun (cs, rest) => (String.ofList cs, rest)

def groupedDigits (isDigit : Char → Bool) : List Char → List Char × List Char
  | [] => ([], [])
  | '_' :: c :: rest =>
    if isDigit c then
      let (ds, after) := groupedDigits isDigit rest
      (c :: ds, after)
    else ([], '_' :: c :: rest)
  | c :: rest =>
    if isDigit c then
      let (ds, after) := groupedDigits isDigit rest
      (c :: ds, after)
    else ([], c :: rest)

def digits (isDigit : Char → Bool) : List Char → Option (List Char × List Char)
  | c :: rest =>
    if isDigit c then
      let (ds, after) := groupedDigits isDigit rest
      some (c :: ds, after)
    else none
  | [] => none

def sign : List Char → Bool × List Char
  | '-' :: rest => (true, rest)
  | '+' :: rest => (false, rest)
  | cs => (false, cs)

def wholeDigits : List Char → Option (List Char × List Char)
  | '0' :: rest => some (['0'], rest)
  | cs => digits Char.isDigit cs

def integerOf (n : Int) (rest : List Char) : Option (Toml × List Char) :=
  if Word.isSigned n then some (.integer n, rest) else none

def based (base : Nat) (isDigit : Char → Bool) (cs : List Char) : Option (Toml × List Char) := do
  let (ds, rest) ← digits isDigit cs
  integerOf (Digit.ofBase base ds) rest

def integer : List Char → Option (Toml × List Char)
  | '0' :: 'x' :: rest => based 16 (fun c => (Digit.value? c).isSome) rest
  | '0' :: 'o' :: rest => based 8 (fun c => '0' ≤ c && c ≤ '7') rest
  | '0' :: 'b' :: rest => based 2 (fun c => c == '0' || c == '1') rest
  | cs => do
    let (negative, cs) := sign cs
    let (ds, rest) ← wholeDigits cs
    let n : Int := Decimal.ofDigits ds
    integerOf (if negative then -n else n) rest

def fraction : List Char → Option (List Char × List Char)
  | '.' :: rest => digits Char.isDigit rest
  | _ => none

def exponent : List Char → Option (Int × List Char)
  | c :: rest =>
    if c == 'e' || c == 'E' then do
      let (negative, rest) := sign rest
      let (ds, rest) ← digits Char.isDigit rest
      let n : Int := Decimal.ofDigits ds
      return (if negative then -n else n, rest)
    else none
  | [] => none

def floatOf (negative : Bool) (ds : List Char) (e : Int) (rest : List Char) :
    Option (Toml × List Char) :=
  let x := Decimal.nearest (Decimal.ofDigits ds) e
  if negative then some (.float (-x), rest)
  else if x.isInf then none else some (.float x, rest)

def decimal (cs : List Char) : Option (Toml × List Char) := do
  let (negative, cs) := sign cs
  let (ds, rest) ← wholeDigits cs
  match fraction rest with
  | some (fs, rest) =>
    let (e, rest) := (exponent rest).getD (0, rest)
    floatOf negative (ds ++ fs) (e - fs.length) rest
  | none => do
    let (e, rest) ← exponent rest
    floatOf negative ds e rest

def word? (word : String) (cs : List Char) : Option (List Char) :=
  if word.toList.isPrefixOf cs then some (cs.drop word.length) else none

def named (cs : List Char) : Option (Toml × List Char) :=
  let (negative, cs) := sign cs
  let signed (x : Float) : Toml := .float (if negative then -x else x)
  match word? "inf" cs with
  | some rest => some (signed (1 / 0), rest)
  | none => (word? "nan" cs).map fun rest => (signed (0 / 0), rest)

def fixedNumber (count : Nat) (cs : List Char) : Option (Nat × List Char) :=
  let ds := cs.take count
  if ds.length == count && ds.all Char.isDigit then some (Decimal.ofDigits ds, cs.drop count) else none

def isLeap (year : Nat) : Bool := year % 4 == 0 && (year % 100 != 0 || year % 400 == 0)

def daysIn (year month : Nat) : Nat :=
  if month == 2 then if isLeap year then 29 else 28
  else if month == 4 || month == 6 || month == 9 || month == 11 then 30
  else 31

def mark (c : Char) : List Char → Option (List Char)
  | d :: rest => if c == d then some rest else none
  | [] => none

def date (cs : List Char) : Option (List Char) := do
  let (year, cs) ← fixedNumber 4 cs
  let (month, cs) ← fixedNumber 2 (← mark '-' cs)
  let (day, cs) ← fixedNumber 2 (← mark '-' cs)
  if 1 ≤ month && month ≤ 12 && 1 ≤ day && day ≤ daysIn year month then some cs else none

def timeOfDay (cs : List Char) : Option (List Char) := do
  let (hour, cs) ← fixedNumber 2 cs
  let (minute, cs) ← fixedNumber 2 (← mark ':' cs)
  let (second, cs) ← fixedNumber 2 (← mark ':' cs)
  if hour ≤ 23 && minute ≤ 59 && second ≤ 60 then
    match cs with
    | '.' :: rest =>
      let after := rest.dropWhile Char.isDigit
      if after.length < rest.length then some after else none
    | _ => some cs
  else none

def offset (cs : List Char) : List Char :=
  match cs with
  | 'Z' :: rest | 'z' :: rest => rest
  | c :: rest =>
    if c == '+' || c == '-' then
      let given : Option (List Char) := do
        let (hour, cs) ← fixedNumber 2 rest
        let (minute, cs) ← fixedNumber 2 (← mark ':' cs)
        if hour ≤ 23 && minute ≤ 59 then some cs else none
      given.getD cs
    else cs
  | [] => []

def datetime (cs : List Char) : Option (List Char) :=
  match date cs with
  | some (c :: rest) =>
    if c == 'T' || c == 't' || c == ' ' then
      match timeOfDay rest with
      | some after => some (offset after)
      | none => some (c :: rest)
    else some (c :: rest)
  | some [] => some []
  | none => timeOfDay cs

def number (cs : List Char) : Option (Toml × List Char) :=
  match datetime cs with
  | some rest => some (.datetime, rest)
  | none => (decimal cs).orElse fun _ => (named cs).orElse fun _ => integer cs

def scalar (cs : List Char) : Option (Toml × List Char) :=
  match cs with
  | [] => none
  | c :: _ =>
    if c == '"' || c == '\x27' then (quoted? cs).map fun (s, rest) => (.string s, rest)
    else if c.isDigit || c == '+' || c == '-' then number cs
    else if c == 't' then (word? "true" cs).map fun rest => (.boolean true, rest)
    else if c == 'f' then (word? "false" cs).map fun rest => (.boolean false, rest)
    else if c == 'i' || c == 'n' then named cs
    else none

def skipLines : Nat → List Char → Option (List Char)
  | 0, cs => some cs
  | turns + 1, cs =>
    match skipBlank cs with
    | '#' :: rest =>
      match newline? (rest.dropWhile isPlain) with
      | some rest => skipLines turns rest
      | none => none
    | cs =>
      match newline? cs with
      | some rest => skipLines turns rest
      | none => some cs

def skip (cs : List Char) : Option (List Char) := skipLines cs.length cs

def arrayItems (item : Step Toml) : Nat → List Char → Option (List Toml × List Char)
  | 0, _ => none
  | turns + 1, cs => do
    let cs ← skip cs
    match cs with
    | ']' :: rest => return ([], rest)
    | _ =>
      let (v, cs) ← item cs
      match ← skip cs with
      | ',' :: rest =>
        let (vs, rest) ← arrayItems item turns rest
        return (v :: vs, rest)
      | ']' :: rest => return ([v], rest)
      | _ => none

def isBare (c : Char) : Bool := c.isAlphanum || c == '_' || c == '-'

def simpleKey (cs : List Char) : Option (String × List Char) :=
  match cs with
  | '"' :: rest => (basic rest).map fun (k, rest) => (String.ofList k, rest)
  | '\x27' :: rest => (literal rest).map fun (k, rest) => (String.ofList k, rest)
  | _ =>
    let k := cs.takeWhile isBare
    if k.isEmpty then none else some (String.ofList k, cs.dropWhile isBare)

def keys : Nat → List Char → Option (List String × List Char)
  | 0, _ => none
  | limit + 1, cs => do
    let (k, cs) ← simpleKey (skipBlank cs)
    match skipBlank cs with
    | '.' :: rest =>
      let (ks, rest) ← keys limit rest
      return (k :: ks, rest)
    | rest => return ([k], rest)

def depthLimit : Nat := 79

def pair (value : Step Toml) (cs : List Char) : Option ((List String × Toml) × List Char) := do
  let (ks, cs) ← keys depthLimit cs
  let cs ← mark '=' cs
  let (v, cs) ← value (skipBlank cs)
  return ((ks, v), cs)

def inlinePairs (value : Step Toml) : Nat → List Char → Option (List (List String × Toml) × List Char)
  | 0, _ => none
  | turns + 1, cs => do
    let (p, cs) ← pair value cs
    match skipBlank cs with
    | ',' :: rest =>
      let (ps, rest) ← inlinePairs value turns rest
      return (p :: ps, rest)
    | '\x7d' :: rest => return ([p], rest)
    | _ => none

def inlineTable (value : Step Toml) (cs : List Char) : Option (Toml × List Char) := do
  let (ps, rest) ← match skipBlank cs with
    | '\x7d' :: rest => some ([], rest)
    | cs => inlinePairs value cs.length cs
  return (.inline (← addLines ps []), rest)

def value : Nat → Step Toml
  | 0, cs => scalar cs
  | depth + 1, cs =>
    match cs with
    | '[' :: rest => (arrayItems (value depth) cs.length rest).map fun (vs, rest) => (.array vs, rest)
    | '\x7b' :: rest => inlineTable (value depth) rest
    | _ => scalar cs

def headerKeys (close : String) (cs : List Char) : Option (List String × List Char) := do
  let (ks, cs) ← keys depthLimit cs
  return (ks, ← lineEnd (← word? close cs))

def statement (cs : List Char) : Option (Statement × List Char) :=
  match cs with
  | '[' :: '[' :: rest => (headerKeys "]]" rest).map fun (ks, rest) => (.nextTable ks, rest)
  | '[' :: rest => (headerKeys "]" rest).map fun (ks, rest) => (.table ks, rest)
  | _ => do
    let ((ks, v), cs) ← pair (value depthLimit) cs
    return (.entry ks v, ← lineEnd cs)

def statements : Nat → List Char → Option (List Statement)
  | 0, cs => if cs.isEmpty then some [] else none
  | turns + 1, cs =>
    match skipBlank cs with
    | [] => some []
    | '#' :: rest => (lineEnd ('#' :: rest)).bind (statements turns)
    | c :: rest =>
      if c == '\n' || c == '\r' then (newline? (c :: rest)).bind (statements turns)
      else do
        let (s, cs) ← statement (c :: rest)
        return s :: (← statements turns cs)

def withoutByteMark : List Char → List Char
  | c :: rest => if c.toNat == 0xfeff then rest else c :: rest
  | [] => []

end Reader

def parse? (text : String) : Option Entries := do
  let cs := Reader.withoutByteMark text.toList
  ofStatements (← Reader.statements (cs.length + 1) cs)

end TestTwins.Toml
