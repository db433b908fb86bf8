import TestTwins.Digit
import TestTwins.Json
import TestTwins.Word

namespace TestTwins.Json

namespace Reader

abbrev Step (α : Type) := List Char → Option (α × List Char)

def isBlank (c : Char) : Bool := c == ' ' || c == '\t' || c == '\n' || c == '\r'

def skipBlank (cs : List Char) : List Char := cs.dropWhile isBlank

def expect (c : Char) (cs : List Char) : Option (List Char) :=
  match skipBlank cs with
  | d :: rest => if c == d then some rest else none
  | [] => none

def wholeDigits (n : Nat) : List Char → Nat × Nat
  | [] => (n, 0)
  | c :: rest =>
    let m := 10 * n + Decimal.digitValue c
    if m < Word.count then wholeDigits m rest else (n, (c :: rest).length)

def fractionDigits (n taken : Nat) : List Char → Nat × Nat
  | [] => (n, taken)
  | c :: rest =>
    let m := 10 * n + Decimal.digitValue c
    if m < Word.count then fractionDigits m (taken + 1) rest else (n, taken)

def ofWord (n : Nat) : Float := n.toUInt64.toFloat

/-- `x · 10 ^ e`, refusing what is out of range. Far below the range the division is repeated. -/
def scale : Nat → Float → Int → Option Float
  | 0, x, _ => some x
  | steps + 1, x, e =>
    if e.natAbs ≤ 308 then
      if 0 ≤ e then
        let y := x * Decimal.nearest 1 e
        if y.isInf then none else some y
      else some (x / Decimal.nearest 1 e.natAbs)
    else if x == 0 then some x
    else if 0 ≤ e then none
    else scale steps (x / Decimal.nearest 1 308) (e + 308)

def exponent (cs : List Char) : Option (Int × List Char) :=
  let (negative, cs) := match cs with
    | '-' :: rest => (true, rest)
    | '+' :: rest => (false, rest)
    | _ => (false, cs)
  let ds := cs.takeWhile Char.isDigit
  if ds.isEmpty then none
  else
    let n : Int := Decimal.ofDigits ds
    some (if negative then -n else n, cs.dropWhile Char.isDigit)

def number (negative : Bool) : Step Json := fun cs =>
  let whole := cs.takeWhile Char.isDigit
  let cs := cs.dropWhile Char.isDigit
  if whole.isEmpty || (whole.head? == some '0' && whole.length != 1) then none
  else
    let (n, dropped) := wholeDigits 0 whole
    let float (n : Nat) (e : Int) (cs : List Char) : Option (Json × List Char) :=
      (scale 8 (ofWord n) e).map fun x => (.float (if negative then -x else x), cs)
    match cs with
    | '.' :: rest =>
      let fraction := rest.takeWhile Char.isDigit
      let rest := rest.dropWhile Char.isDigit
      if fraction.isEmpty then none
      else
        let (n, taken) := fractionDigits n 0 fraction
        let e : Int := dropped - taken
        match rest with
        | c :: more =>
          if c == 'e' || c == 'E' then
            (exponent more).bind fun (x, cs) => float n (e + x) cs
          else float n e rest
        | [] => float n e rest
    | c :: rest =>
      if c == 'e' || c == 'E' then
        (exponent rest).bind fun (x, cs) => float n (dropped + x) cs
      else if dropped != 0 then float n dropped cs
      else if negative && (n == 0 || Word.half < n) then float n 0 cs
      else some (.int (if negative then -n else n), cs)
    | [] =>
      if dropped != 0 then float n dropped []
      else if negative && (n == 0 || Word.half < n) then float n 0 []
      else some (.int (if negative then -n else n), [])

def hexUnit (a b c d : Char) : Option Nat := do
  return ((← Digit.value? a) * 16 + (← Digit.value? b)) * 256 + (← Digit.value? c) * 16 +
    (← Digit.value? d)

def simpleEscape : Char → Option Char
  | '"' => some '"'
  | '\\' => some '\\'
  | '/' => some '/'
  | 'b' => some '\x08'
  | 'f' => some '\x0c'
  | 'n' => some '\n'
  | 'r' => some '\r'
  | 't' => some '\t'
  | _ => none

/-- The rest of a string after its opening quote. A pair of surrogate units is one character, and one
alone is refused. -/
def string : List Char → Option (List Char × List Char)
  | [] => none
  | '"' :: rest => some ([], rest)
  | '\\' :: 'u' :: a :: b :: c :: d :: '\\' :: 'u' :: e :: f :: g :: h :: rest =>
    match hexUnit a b c d with
    | none => none
    | some u =>
      if 0xD800 ≤ u && u < 0xDC00 then
        match hexUnit e f g h with
        | none => none
        | some v =>
          if 0xDC00 ≤ v && v < 0xE000 then
            (string rest).map fun (s, r) =>
              (Char.ofNat (0x10000 + (u - 0xD800) * 0x400 + (v - 0xDC00)) :: s, r)
          else none
      else if 0xDC00 ≤ u && u < 0xE000 then none
      else (string ('\\' :: 'u' :: e :: f :: g :: h :: rest)).map fun (s, r) => (Char.ofNat u :: s, r)
  | '\\' :: 'u' :: a :: b :: c :: d :: rest =>
    match hexUnit a b c d with
    | none => none
    | some u =>
      if 0xD800 ≤ u && u < 0xE000 then none
      else (string rest).map fun (s, r) => (Char.ofNat u :: s, r)
  | '\\' :: c :: rest =>
    match simpleEscape c with
    | none => none
    | some d => (string rest).map fun (s, r) => (d :: s, r)
  | c :: rest =>
    if c.toNat < 0x20 || c == '\\' then none else (string rest).map fun (s, r) => (c :: s, r)

def items (item : Step α) (close : Char) : Nat → Step (List α)
  | 0, _ => none
  | steps + 1, cs =>
    match item cs with
    | none => none
    | some (a, cs) =>
      match skipBlank cs with
      | ',' :: rest => (items item close steps rest).map fun (as, cs) => (a :: as, cs)
      | c :: rest => if c == close then some ([a], rest) else none
      | [] => none

def enclosed (item : Step α) (close : Char) : Step (List α) := fun cs =>
  match skipBlank cs with
  | [] => none
  | c :: rest => if c == close then some ([], rest) else items item close (cs.length + 1) (c :: rest)

def member (value : Step Json) : Step (String × Json) := fun cs => do
  let cs ← expect '"' cs
  let (key, cs) ← string cs
  let cs ← expect ':' cs
  let (v, cs) ← value cs
  return ((String.ofList key, v), cs)

def value : Nat → Step Json
  | 0, _ => none
  | depth + 1, cs =>
    match skipBlank cs with
    | 'n' :: 'u' :: 'l' :: 'l' :: rest => some (.null, rest)
    | 't' :: 'r' :: 'u' :: 'e' :: rest => some (.bool true, rest)
    | 'f' :: 'a' :: 'l' :: 's' :: 'e' :: rest => some (.bool false, rest)
    | '"' :: rest => (string rest).map fun (s, cs) => (.str (String.ofList s), cs)
    | '-' :: rest => number true rest
    | '[' :: rest =>
      if depth == 0 then none
      else (enclosed (value depth) ']' rest).map fun (items, cs) => (.arr items, cs)
    | '{' :: rest =>
      if depth == 0 then none
      else (enclosed (member (value depth)) '}' rest).map fun (ms, cs) => (.obj ms, cs)
    | c :: rest => if c.isDigit then number false (c :: rest) else none
    | [] => none

end Reader

def depthLimit : Nat := 128

def parse? (text : String) : Option Json :=
  match Reader.value depthLimit text.toList with
  | some (j, rest) => if (Reader.skipBlank rest).isEmpty then some j else none
  | none => none

end TestTwins.Json
