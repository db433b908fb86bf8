import TestTwins.Decimal

namespace TestTwins.Shell.Arithmetic

def skipBlank (cs : List Char) : List Char := cs.dropWhile fun c => c == ' ' || c == '\t' || c == '\n'

def operator? (level : Nat) (cs : List Char) : Option ((Int → Int → Int) × List Char) :=
  match level, cs with
  | 1, '*' :: rest => some (fun a b => a * b, rest)
  | 1, '/' :: rest => some (Int.tdiv, rest)
  | 1, '%' :: rest => some (Int.tmod, rest)
  | 2, '+' :: rest => some (fun a b => a + b, rest)
  | 2, '-' :: rest => some (fun a b => a - b, rest)
  | _, _ => none

def isNameChar (c : Char) : Bool := c.isAlphanum || c == '_'

variable (value : String → Int)

mutual

def operand : Nat → Nat → List Char → Option (Int × List Char)
  | 0, _, _ => none
  | n + 1, 0, cs =>
    match skipBlank cs with
    | '-' :: rest => (operand n 0 rest).map fun (a, rest) => (-a, rest)
    | '+' :: rest => operand n 0 rest
    | '(' :: rest => do
      let (a, rest) ← operand n 2 rest
      match skipBlank rest with
      | ')' :: rest => some (a, rest)
      | _ => none
    | '$' :: '#' :: rest => some (value "#", rest)
    | '$' :: rest =>
      let name := rest.takeWhile isNameChar
      some (value (String.ofList name), rest.drop name.length)
    | cs =>
      let name := cs.takeWhile isNameChar
      let rest := cs.drop name.length
      if name.isEmpty then none
      else if name.all Char.isDigit then some (Decimal.ofDigits name, rest)
      else some (value (String.ofList name), rest)
  | n + 1, level + 1, cs => do
    let (a, rest) ← operand n level cs
    more n (level + 1) a rest

def more : Nat → Nat → Int → List Char → Option (Int × List Char)
  | 0, _, _, _ => none
  | n + 1, level, a, cs =>
    match operator? level (skipBlank cs) with
    | some (f, rest) => do
      let (b, rest) ← operand n (level - 1) rest
      more n level (f a b) rest
    | none => some (a, cs)

end

def eval? (text : List Char) : Option Int := do
  let (a, rest) ← operand value (4 * text.length + 4) 2 text
  if (skipBlank rest).isEmpty then some a else none

end TestTwins.Shell.Arithmetic
