import TestTwins.Json

namespace TestTwins.Json

def hexDigit (n : Nat) : Char := Nat.digitChar n

def escapeChar (c : Char) : List Char :=
  if c == '"' then ['\\', '"']
  else if c == '\\' then ['\\', '\\']
  else if c == '\n' then ['\\', 'n']
  else if c == '\r' then ['\\', 'r']
  else if c == '\t' then ['\\', 't']
  else if c == '\x08' then ['\\', 'b']
  else if c == '\x0c' then ['\\', 'f']
  else if c.toNat < 0x20 then
    ['\\', 'u', '0', '0', hexDigit (c.toNat / 16), hexDigit (c.toNat % 16)]
  else [c]

def quoted (s : String) : String := String.ofList ('"' :: s.toList.flatMap escapeChar ++ ['"'])

def floatText (x : Float) : String :=
  if x.isFinite then Decimal.text .json "null" "null" x else "null"

mutual

def compact : Json → String
  | .null => "null"
  | .bool b => if b then "true" else "false"
  | .int n => toString n
  | .float x => floatText x
  | .str s => quoted s
  | .arr items => "[" ++ String.intercalate "," (compactItems items) ++ "]"
  | .obj members => "\x7b" ++ String.intercalate "," (compactMembers members) ++ "\x7d"

def compactItems : List Json → List String
  | [] => []
  | j :: rest => j.compact :: compactItems rest

def compactMembers : List (String × Json) → List String
  | [] => []
  | (k, j) :: rest => (quoted k ++ ":" ++ j.compact) :: compactMembers rest

end

def indentation (level : Nat) : String := String.ofList (List.replicate (2 * level) ' ')

def layered (start stop : String) (level : Nat) (lines : List String) : String :=
  if lines.isEmpty then start ++ stop
  else
    let inner := "\n" ++ indentation (level + 1)
    start ++ inner ++ String.intercalate ("," ++ inner) lines ++ "\n" ++ indentation level ++ stop

mutual

def prettyAt (level : Nat) : Json → String
  | .arr items => layered "[" "]" level (prettyItems (level + 1) items)
  | .obj members => layered "\x7b" "\x7d" level (prettyMembers (level + 1) members)
  | .null => "null"
  | .bool b => if b then "true" else "false"
  | .int n => toString n
  | .float x => floatText x
  | .str s => quoted s

def prettyItems (level : Nat) : List Json → List String
  | [] => []
  | j :: rest => j.prettyAt level :: prettyItems level rest

def prettyMembers (level : Nat) : List (String × Json) → List String
  | [] => []
  | (k, j) :: rest => (quoted k ++ ": " ++ j.prettyAt level) :: prettyMembers level rest

end

def pretty (j : Json) : String := j.prettyAt 0

end TestTwins.Json
