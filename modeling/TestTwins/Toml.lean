/-! Configuration text as a tree. A table remembers how it came about, because that decides who may still
add to it: a table opened by a header is complete after its lines, one that only lies on the way to
another may still be opened, one made by dotted keys may take more dotted keys, and an inline table is
closed. -/

namespace TestTwins

inductive Toml
  | string (s : String)
  | integer (n : Int)
  | float (x : Float)
  | boolean (b : Bool)
  | datetime
  | array (items : List Toml)
  | inline (entries : List (String × Toml))
  | header (entries : List (String × Toml))
  | implied (entries : List (String × Toml))
  | dotted (entries : List (String × Toml))
  | series (tables : List (List (String × Toml)))
  deriving Inhabited

namespace Toml

abbrev Entries := List (String × Toml)

def change (key : String) (f : Option Toml → Option Toml) : Entries → Option Entries
  | [] => (f none).map fun v => [(key, v)]
  | (k, v) :: rest =>
    if k = key then (f (some v)).map fun w => (k, w) :: rest
    else (change key f rest).map fun es => (k, v) :: es

def add (key : String) (value : Toml) (entries : Entries) : Option Entries :=
  change key (fun old => if old.isSome then none else some value) entries

def changeLast (f : Entries → Option Entries) : List Entries → Option (List Entries)
  | [] => none
  | [es] => (f es).map fun es => [es]
  | es :: rest => (changeLast f rest).map fun all => es :: all

/-- Adds a value under dotted keys. The table it arrives in has to be one of dotted keys, or for a single
key one that is not. -/
def addDotted (value : Toml) (key : String) : (path : List String) → (first isDotted : Bool) → Entries →
    Option Entries
  | [], first, isDotted, es => if first == isDotted then none else add key value es
  | k :: path, _, _, es =>
    change k (fun
      | none => (addDotted value key path false true []).map .dotted
      | some (.dotted sub) => (addDotted value key path false true sub).map .dotted
      | some (.implied sub) => (addDotted value key path false false sub).map .implied
      | some (.series all) => (changeLast (addDotted value key path false false) all).map .series
      | some _ => none) es

def addLine (keys : List String) (value : Toml) (entries : Entries) : Option Entries :=
  match keys.getLast? with
  | some key => addDotted value key keys.dropLast true false entries
  | none => none

def changeAt (f : Entries → Option Entries) : List String → Entries → Option Entries
  | [], es => f es
  | k :: path, es =>
    change k (fun
      | none => (changeAt f path []).map .implied
      | some (.implied sub) => (changeAt f path sub).map .implied
      | some (.dotted sub) => (changeAt f path sub).map .dotted
      | some (.header sub) => (changeAt f path sub).map .header
      | some (.series all) => (changeLast (changeAt f path) all).map .series
      | some _ => none) es

/-- Opens a table, with the lines below its header. One that lies on the way to others may be opened
once. -/
def openTable (lines : Entries → Option Entries) (key : String) (entries : Entries) :
    Option Entries :=
  change key (fun
    | none => (lines []).map .header
    | some (.implied sub) => (lines sub).map .header
    | some _ => none) entries

def openNext (lines : Entries → Option Entries) (key : String) (entries : Entries) :
    Option Entries :=
  change key (fun
    | none => (lines []).map fun es => .series [es]
    | some (.series all) => (lines []).map fun es => .series (all ++ [es])
    | some _ => none) entries

inductive Statement
  | table (keys : List String)
  | nextTable (keys : List String)
  | entry (keys : List String) (value : Toml)

def addLines (lines : List (List String × Toml)) (entries : Entries) : Option Entries :=
  lines.foldlM (fun es (keys, value) => addLine keys value es) entries

structure Section where
  keys : List String
  isNext : Bool
  lines : List (List String × Toml)

def addSection (s : Section) (entries : Entries) : Option Entries :=
  match s.keys.getLast? with
  | none => none
  | some key =>
    let opening := if s.isNext then openNext else openTable
    changeAt (opening (addLines s.lines) key) s.keys.dropLast entries

def sections : List Statement → List (List String × Toml) × List Section
  | [] => ([], [])
  | .entry keys value :: rest =>
    let (lines, after) := sections rest
    ((keys, value) :: lines, after)
  | .table keys :: rest =>
    let (lines, after) := sections rest
    ([], ⟨keys, false, lines⟩ :: after)
  | .nextTable keys :: rest =>
    let (lines, after) := sections rest
    ([], ⟨keys, true, lines⟩ :: after)

def ofStatements (statements : List Statement) : Option Entries := do
  let (lines, after) := sections statements
  let root ← addLines lines []
  after.foldlM (fun es s => addSection s es) root

end Toml

end TestTwins
