import TestTwins.Decimal
import TestTwins.Toml
import TestTwins.Word

namespace TestTwins.Toml

namespace Printer

def isControl (c : Char) : Bool :=
  (c.toNat < 0x20 && c != '\t' && c != '\n') || c.toNat == 0x7f

def longestRun (c : Char) (cs : List Char) : Nat := (go 0 cs).2
where
  go (run : Nat) : List Char → Nat × Nat
    | [] => (run, run)
    | d :: rest =>
      if d == c then go (run + 1) rest
      else
        let (_, best) := go 0 rest
        (run, max run best)

inductive Style
  | basic
  | literal
  | longBasic
  | longLiteral
  deriving DecidableEq, Repr

def apostrophe : Char := '\x27'

def styleOf (cs : List Char) : Style :=
  let long := cs.contains '\n'
  let literalFits := !cs.any isControl && longestRun apostrophe cs ≤ 2
  if long then
    if literalFits && (cs.contains '\\' || 2 < longestRun '"' cs) then .longLiteral else .longBasic
  else if !(cs.contains '"' || cs.contains '\\') then .basic
  else if !literalFits then .basic
  else if cs.contains apostrophe then .longLiteral
  else .literal

def hexDigit (n : Nat) : Char := (Nat.digitChar n).toUpper

def escaped (long : Bool) (c : Char) : List Char :=
  if c == '"' then ['\\', '"']
  else if c == '\\' then ['\\', '\\']
  else if c == '\x08' then ['\\', 'b']
  else if c == '\t' then ['\\', 't']
  else if c == '\n' then if long then ['\n'] else ['\\', 'n']
  else if c == '\x0c' then ['\\', 'f']
  else if c == '\r' then ['\\', 'r']
  else if isControl c then ['\\', 'u', '0', '0', hexDigit (c.toNat / 16), hexDigit (c.toNat % 16)]
  else [c]

def longBasicText (run : Nat) : List Char → List Char
  | [] => []
  | c :: rest =>
    if c == '"' then
      if run < 2 then '"' :: longBasicText (run + 1) rest
      else '\\' :: '"' :: longBasicText 0 rest
    else escaped true c ++ longBasicText 0 rest

def quotedChars (cs : List Char) : List Char :=
  let quotes := ['"', '"', '"']
  let apostrophes := [apostrophe, apostrophe, apostrophe]
  match styleOf cs with
  | .basic => '"' :: cs.flatMap (escaped false) ++ ['"']
  | .literal => apostrophe :: cs ++ [apostrophe]
  | .longBasic => quotes ++ '\n' :: longBasicText 0 cs ++ quotes
  | .longLiteral =>
    if cs.contains '\n' then apostrophes ++ '\n' :: cs ++ apostrophes
    else apostrophes ++ cs ++ apostrophes

end Printer

def quoted (s : String) : String := String.ofList (Printer.quotedChars s.toList)

def lineText? : Toml → Option String
  | .string s => some (quoted s)
  | .integer n => if Word.isSigned n then some (toString n) else none
  | .float x => some (Decimal.text .pointed "nan" "inf" x)
  | .boolean b => some (if b then "true" else "false")
  | _ => none

def tableText? (name : String) (lines : Entries) : Option String := do
  let lines ← lines.mapM fun (key, v) => do return key ++ " = " ++ (← v.lineText?) ++ "\n"
  return "[" ++ name ++ "]\n" ++ String.join lines

def render? (tables : List (String × Entries)) : Option String := do
  let texts ← tables.mapM fun (name, lines) => tableText? name lines
  return String.intercalate "\n" texts

end TestTwins.Toml
