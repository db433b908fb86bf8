/-! File paths. A path keeps its text as written; what it names is decided by its components, where
doubled separators, a separator at the end and inner dots do not count. -/

namespace TestTwins

structure Path where
  text : String
  deriving DecidableEq, Repr, Inhabited

namespace Path

def splitSlash : List Char → List (List Char)
  | [] => [[]]
  | '/' :: rest => [] :: splitSlash rest
  | c :: rest =>
    match splitSlash rest with
    | [] => [[c]]
    | piece :: pieces => (c :: piece) :: pieces

def isAbsolute (p : Path) : Bool := p.text.toList.head? == some '/'

def pieces (p : Path) : List String :=
  let body := if p.isAbsolute then p.text.toList.drop 1 else p.text.toList
  (splitSlash body).map String.ofList

/-- Whether a piece counts: a dot does only at the front of a relative path. -/
def counts (front : Bool) (piece : String) : Bool :=
  piece != "" && (piece != "." || front)

def marked (p : Path) : List (String × Bool) :=
  match p.pieces with
  | [] => []
  | first :: rest => (first, counts (!p.isAbsolute) first) :: rest.map fun s => (s, counts false s)

def names (p : Path) : List String := (p.marked.filter (·.2)).map (·.1)

def same (p q : Path) : Bool := p.isAbsolute == q.isAbsolute && p.names == q.names

def contains (ps : List Path) (p : Path) : Bool := ps.any (·.same p)

def pushNew (ps : List Path) (p : Path) : List Path := if contains ps p then ps else ps ++ [p]

def isEmpty (p : Path) : Bool := p.text == ""

def fileName? (p : Path) : Option String :=
  match p.names.getLast? with
  | some name => if name == ".." || name == "." then none else some name
  | none => none

def parent? (p : Path) : Option Path :=
  let trimmed := p.marked.reverse.dropWhile (!·.2)
  match trimmed with
  | [] => none
  | _ :: rest =>
    let kept := (rest.dropWhile (!·.2)).reverse.map (·.1)
    some ⟨(if p.isAbsolute then "/" else "") ++ String.intercalate "/" kept⟩

def splitName (name : String) : String × Option String :=
  let cs := name.toList
  let after := (cs.reverse.takeWhile (· != '.')).reverse
  let before := cs.take (cs.length - after.length - 1)
  if after.length == cs.length || before.isEmpty then (name, none)
  else (String.ofList before, some (String.ofList after))

def fileStem? (p : Path) : Option String := p.fileName?.map fun n => (splitName n).1

def extension? (p : Path) : Option String := p.fileName?.bind fun n => (splitName n).2

def join (p : Path) (s : String) : Path :=
  if s.toList.head? == some '/' then ⟨s⟩
  else if p.text == "" || p.text.toList.getLast? == some '/' then ⟨p.text ++ s⟩
  else ⟨p.text ++ "/" ++ s⟩

def ancestors (p : Path) : List Path := go p.names.length p
where
  go : Nat → Path → List Path
    | 0, _ => []
    | n + 1, p =>
      match p.parent? with
      | none => []
      | some q => q :: go n q

end Path

end TestTwins
