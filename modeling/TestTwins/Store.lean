import TestTwins.Config
import TestTwins.Json.Printer
import TestTwins.Json.Reader
import TestTwins.Store.Retention
import TestTwins.Store.Trends

namespace TestTwins

def reservedCharacters : List Char := ['/', '\\', ':', '*', '?', '"', '<', '>', '|']

def maxFileNameLength : Nat := 100

/-- A file name for any key: separators and reserved characters are replaced, and long names are cut. -/
def sanitize (name : String) : String :=
  String.ofList
    ((name.toList.take maxFileNameLength).map fun c => if reservedCharacters.contains c then '_' else c)

def hashSimilarity {K : Type} [Scalar K] (a b : String) : K :=
  if a == "" || b == "" then Scalar.zero
  else if a == b then Scalar.one
  else
    let agreeing := (a.toList.zip b.toList).filter fun (x, y) => x == y
    Scalar.ratio agreeing.length (max a.length b.length)

structure Store where
  root : Path
  retentionDays : Int
  enabled : Bool

namespace Store

inductive Family
  | sessions
  | tests
  | files
  deriving DecidableEq, Repr

def Family.directory : Family → String
  | sessions => "sessions"
  | tests => "tests"
  | files => "files"

def directory (s : Store) (name : String) : Path := s.root.join name

def recordPath (s : Store) (f : Family) (key : String) : Path :=
  (s.directory f.directory).join (sanitize key ++ ".json")

def signaturesPath (s : Store) : Path := (s.directory "signatures").join "signatures.json"

def purgeUnless (s : Store) (refused : Path → Bool) (d : Disk) (now : Int) : Disk × RetentionReport :=
  if s.enabled then
    Retention.enforceUnless refused d now (s.directory "sessions") (s.directory "tests") s.retentionDays
  else (d, .empty)

def purge (s : Store) (d : Disk) (now : Int) : Disk × RetentionReport :=
  s.purgeUnless (fun _ => false) d now

def makeDirectory (d : Disk) (p : Path) : Except StorageError Disk :=
  (d.makeDirectories p).mapError fun e => .disk p.text e.message

def makeAll (d : Disk) : List Path → Disk × Except StorageError Unit
  | [] => (d, .ok ())
  | p :: rest =>
    match makeDirectory d p with
    | .ok d => makeAll d rest
    | .error e => (d, .error e)

def openAt (d : Disk) (now : Int) (root : Path) (retentionDays : Int) (enabled : Bool) :
    Disk × Except StorageError Store :=
  let s : Store := ⟨root, retentionDays, enabled⟩
  if enabled then
    match makeAll d (["sessions", "tests", "files", "signatures"].map s.directory) with
    | (d, .ok ()) => ((s.purge d now).1, .ok s)
    | (d, .error e) => (d, .error e)
  else (d, .ok s)

def ofConfig (d : Disk) (now : Int) (project : Path) (c : Config) : Disk × Except StorageError Store :=
  Store.openAt d now (project.join c.storage.root) c.storage.retention c.storage.isEnabled

def writeJson (d : Disk) (now : Int) (p : Path) (j : Json) : Except StorageError Disk :=
  (d.write now p (some j.pretty)).mapError fun e => .disk p.text e.message

def readJson (d : Disk) (p : Path) (decode : Json → Option α) : Except StorageError (Option α) :=
  match d.readText p with
  | .error .notFound => .ok none
  | .error e => .error (.disk p.text e.message)
  | .ok text =>
    match (Json.parse? text).bind decode with
    | some a => .ok (some a)
    | none => .error (.serialization p.text "not a valid record")

def storeSession (s : Store) (d : Disk) (now : Int) (r : SessionRecord) : Except StorageError Disk :=
  if s.enabled then writeJson d now (s.recordPath .sessions r.id) r.toJson else .ok d

def storeTest (s : Store) (d : Disk) (now : Int) (r : TestRecord) : Except StorageError Disk :=
  if s.enabled then writeJson d now (s.recordPath .tests r.test) r.toJson else .ok d

def storeFile (s : Store) (d : Disk) (now : Int) (r : FileRecord) : Except StorageError Disk :=
  if s.enabled then writeJson d now (s.recordPath .files r.file) r.toJson else .ok d

/-- Adds a signature at the end. Signatures that cannot be read are left as they are. -/
def storeSignature (s : Store) (d : Disk) (now : Int) (r : SignatureRecord) :
    Except StorageError Disk :=
  if s.enabled then do
    let known ← readJson d s.signaturesPath SignatureRecord.listOfJson?
    writeJson d now s.signaturesPath (SignatureRecord.listToJson (known.getD [] ++ [r]))
  else .ok d

def load (s : Store) (d : Disk) (p : Path) (decode : Json → Option α) : Option α :=
  if s.enabled then
    match readJson d p decode with
    | .ok a => a
    | .error _ => none
  else none

def loadSession (s : Store) (d : Disk) (id : String) : Option SessionRecord :=
  s.load d (s.recordPath .sessions id) SessionRecord.ofJson?

def loadTest (s : Store) (d : Disk) (test : String) : Option TestRecord :=
  s.load d (s.recordPath .tests test) TestRecord.ofJson?

def loadFile (s : Store) (d : Disk) (file : Path) : Option FileRecord :=
  s.load d (s.recordPath .files file.text) FileRecord.ofJson?

def signatures (s : Store) (d : Disk) : List SignatureRecord :=
  (s.load d s.signaturesPath SignatureRecord.listOfJson?).getD []

def similarSignatures {K : Type} [Scalar K] [Ranked K] (s : Store) (d : Disk) (hash : String)
    (threshold : K) : List (SignatureRecord × K) :=
  let scored := (s.signatures d).map fun r => (r, hashSimilarity hash r.hash)
  sortByScore (scored.filter fun p => threshold ≤ p.2)

def sessions (s : Store) (d : Disk) : List SessionRecord :=
  if s.enabled then
    match d.list (s.directory "sessions") with
    | .error _ => []
    | .ok names =>
      let names := names.filter fun name => (Path.splitName name).2 == some "json"
      names.filterMap fun name => s.load d ((s.directory "sessions").join name) SessionRecord.ofJson?
  else []

def recentSessions (s : Store) (d : Disk) (limit : Nat) : List SessionRecord :=
  ((s.sessions d).mergeSort fun a b => b.timestamp.le a.timestamp).take limit

def trends (s : Store) (d : Disk) (now : Int) (days : Int) : Option Trends := do
  let cutoff ← (Moment.ofNanos now).daysBefore? days
  let window := (s.sessions d).filter fun r => cutoff.le r.timestamp
  Trends.ofSessions days (window.mergeSort fun a b => a.timestamp.le b.timestamp)

end Store

end TestTwins
