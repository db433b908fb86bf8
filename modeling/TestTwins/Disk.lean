import TestTwins.Path

/-! A disk as a value: for each place, a file or a directory. A place is the list of names from the root.
Paths are looked up from a working directory, name by name, so that everything before the last name has
to be a directory. Looking at a disk and changing it can fail for a reason, and the reason decides what
callers do. -/

namespace TestTwins

abbrev Place := List String

def Place.le : Place → Place → Bool
  | [], _ => true
  | _ :: _, [] => false
  | a :: as, b :: bs => a < b || (a == b && Place.le as bs)

structure File where
  text : Option String
  executable : Bool
  modified : Int
  deriving DecidableEq, Repr

inductive Entry
  | file (f : File)
  | directory
  deriving DecidableEq, Repr

inductive DiskError
  | notFound
  | notDirectory
  | isDirectory
  | notText
  | badName
  deriving DecidableEq, Repr

def DiskError.message : DiskError → String
  | notFound => "no such file or directory"
  | notDirectory => "not a directory"
  | isDirectory => "is a directory"
  | notText => "not valid text"
  | badName => "invalid file name"

structure Disk where
  entries : List (Place × Entry)
  here : Place

namespace Disk

def entry? (d : Disk) (place : Place) : Option Entry :=
  if place.isEmpty then some .directory else d.entries.lookup place

def isDirectoryAt (d : Disk) (place : Place) : Bool := d.entry? place == some .directory

def isName (name : String) : Bool := name.utf8ByteSize ≤ 255 && !name.toList.contains '\x00'

def follow (d : Disk) (place : Place) : List String → Except DiskError Place
  | [] => .ok place
  | name :: rest =>
    match d.entry? place with
    | none => .error .notFound
    | some (.file _) => .error .notDirectory
    | some .directory =>
      if name == "." then d.follow place rest
      else if name == ".." then d.follow place.dropLast rest
      else if isName name then d.follow (place ++ [name]) rest
      else .error .badName

def locate (d : Disk) (p : Path) : Except DiskError Place :=
  if p.isEmpty then .error .notFound
  else d.follow (if p.isAbsolute then [] else d.here) p.names

def find (d : Disk) (p : Path) : Except DiskError (Place × Entry) := do
  let place ← d.locate p
  match d.entry? place with
  | some e => return (place, e)
  | none => throw .notFound

def isFile (d : Disk) (p : Path) : Bool :=
  match d.find p with
  | .ok (_, .file _) => true
  | _ => false

def isDirectory (d : Disk) (p : Path) : Bool :=
  match d.find p with
  | .ok (_, .directory) => true
  | _ => false

def file (d : Disk) (p : Path) : Except DiskError File := do
  match ← d.find p with
  | (_, .file f) => return f
  | (_, .directory) => throw .isDirectory

def readText (d : Disk) (p : Path) : Except DiskError String := do
  match (← d.file p).text with
  | some s => return s
  | none => throw .notText

def childName? (parent place : Place) : Option String :=
  if place.dropLast == parent && !place.isEmpty then place.getLast? else none

def namesAt (d : Disk) (place : Place) : List String :=
  d.entries.filterMap fun e => childName? place e.1

def list (d : Disk) (p : Path) : Except DiskError (List String) := do
  match ← d.find p with
  | (place, .directory) => return d.namesAt place
  | (_, .file _) => throw .notDirectory

def putAt (place : Place) (e : Entry) : List (Place × Entry) → List (Place × Entry)
  | [] => [(place, e)]
  | (q, f) :: rest => if q = place then (place, e) :: rest else (q, f) :: putAt place e rest

def setEntry (d : Disk) (place : Place) (e : Entry) : Disk :=
  { d with entries := putAt place e d.entries }

def isExecutableAt (d : Disk) (place : Place) : Bool :=
  match d.entry? place with
  | some (.file f) => f.executable
  | _ => false

def write (d : Disk) (now : Int) (p : Path) (text : Option String) : Except DiskError Disk := do
  let place ← d.locate p
  if d.isDirectoryAt place then throw .isDirectory
  else if d.isDirectoryAt place.dropLast then
    return d.setEntry place (.file ⟨text, d.isExecutableAt place, now⟩)
  else
    match d.entry? place.dropLast with
    | some _ => throw .notDirectory
    | none => throw .notFound

def makeAlong (d : Disk) (place : Place) : List String → Except DiskError Disk
  | [] => .ok d
  | name :: rest =>
    if name == "." then d.makeAlong place rest
    else if name == ".." then d.makeAlong place.dropLast rest
    else if isName name then
      let next := place ++ [name]
      match d.entry? next with
      | some .directory => d.makeAlong next rest
      | some (.file _) => .error .notDirectory
      | none => (d.setEntry next .directory).makeAlong next rest
    else .error .badName

def makeDirectories (d : Disk) (p : Path) : Except DiskError Disk :=
  if p.isEmpty then .ok d
  else d.makeAlong (if p.isAbsolute then [] else d.here) p.names

def eraseAt (d : Disk) (place : Place) : Disk :=
  { d with entries := d.entries.filter fun e => e.1 != place }

def remove (d : Disk) (p : Path) : Except DiskError Disk := do
  match ← d.find p with
  | (place, .file _) => return d.eraseAt place
  | (_, .directory) => throw .isDirectory

def removeAll (d : Disk) (p : Path) : Disk :=
  match d.locate p with
  | .ok place => { d with entries := d.entries.filter fun e => !place.isPrefixOf e.1 }
  | .error _ => d

def below? (parent place : Place) : Option (List String) :=
  if parent.isPrefixOf place && parent.length < place.length then some (place.drop parent.length)
  else none

def descendants (d : Disk) (place : Place) : List (List String × Entry) :=
  (d.entries.filterMap fun e => (below? place e.1).map (·, e.2)).mergeSort fun a b => Place.le a.1 b.1

def install (d : Disk) (now : Int) (p : Path) (text : Option String) (executable : Bool) : Disk :=
  let above := (p.parent?.bind fun q => (d.makeDirectories q).toOption).getD d
  match above.locate p with
  | .ok place =>
    if above.isDirectoryAt place then above
    else above.setEntry place (.file ⟨text, executable || above.isExecutableAt place, now⟩)
  | .error _ => above

def touch? (d : Disk) (p : Path) (time : Int) : Option Disk :=
  match d.find p with
  | .ok (place, .file f) => some (d.setEntry place (.file { f with modified := time }))
  | .ok (_, .directory) => some d
  | .error _ => none

def tree (d : Disk) (root : Path) : List String :=
  match d.find root with
  | .error _ => []
  | .ok (place, _) =>
    let shown := (d.descendants place).map fun (names, e) =>
      (names.foldl Path.join root).text ++ if e == .directory then "/" else ""
    shown.mergeSort fun a b => a ≤ b

def pathOf (place : Place) : Path := ⟨"/" ++ String.intercalate "/" place⟩

def canonical? (d : Disk) (p : Path) : Option Path :=
  match d.find p with
  | .ok (place, _) => some (pathOf place)
  | .error _ => none

end Disk

end TestTwins
