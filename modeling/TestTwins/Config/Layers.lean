import TestTwins.Config.Text
import TestTwins.Disk
import TestTwins.Word

namespace TestTwins

abbrev Environment := List (String × String)

namespace Environment

def natOf? (bound : Nat) (text : String) : Option Nat :=
  let ds := match text.toList with
    | '+' :: rest => rest
    | cs => cs
  if !ds.isEmpty && ds.all Char.isDigit && Decimal.ofDigits ds < bound then some (Decimal.ofDigits ds)
  else none

def intOf? (text : String) : Option Int :=
  match text.toList with
  | '-' :: rest =>
    if !rest.isEmpty && rest.all Char.isDigit && Decimal.ofDigits rest ≤ Word.half then
      some (-(Decimal.ofDigits rest : Int))
    else none
  | _ => (natOf? Word.half text).map Int.ofNat

def boolOf? (text : String) : Option Bool :=
  if text == "true" then some true else if text == "false" then some false else none

def decimalOf? (cs : List Char) : Option Float :=
  let whole := cs.takeWhile Char.isDigit
  let rest := cs.dropWhile Char.isDigit
  let (fraction, rest) := match rest with
    | '.' :: rest => (rest.takeWhile Char.isDigit, rest.dropWhile Char.isDigit)
    | _ => ([], rest)
  if whole.isEmpty && fraction.isEmpty then none
  else
    let places : Int := fraction.length
    let number (e : Int) : Float := Decimal.nearest (Decimal.ofDigits (whole ++ fraction)) (e - places)
    match rest with
    | [] => some (number 0)
    | c :: rest =>
      if c == 'e' || c == 'E' then
        let (negative, ds) := match rest with
          | '-' :: ds => (true, ds)
          | '+' :: ds => (false, ds)
          | ds => (false, ds)
        if !ds.isEmpty && ds.all Char.isDigit then
          let e : Int := Decimal.ofDigits ds
          some (number (if negative then -e else e))
        else none
      else none

def floatOf? (text : String) : Option Float :=
  let (negative, cs) := match text.toList with
    | '-' :: cs => (true, cs)
    | '+' :: cs => (false, cs)
    | cs => (false, cs)
  let name := (String.ofList cs).toLower
  let value :=
    if name == "inf" || name == "infinity" then some (1 / 0)
    else if name == "nan" then some (0 / 0)
    else decimalOf? cs
  value.map fun x => if negative then -x else x

def read? (env : Environment) (name : String) (decode : String → Option α) : Option α :=
  (env.lookup ("DRILL_SERGEANT_" ++ name)).bind decode

def config (env : Environment) : Config where
  duplicates := { DuplicateSettings.empty with
    exactThreshold := env.read? "EXACT_THRESHOLD" floatOf?
    nearThreshold := env.read? "NEAR_THRESHOLD" floatOf?
    similarThreshold := env.read? "SIMILAR_THRESHOLD" floatOf?
    minClusterSize := env.read? "MIN_CLUSTER_SIZE" (natOf? Word.count)
    maxClusterSize := env.read? "MAX_CLUSTER_SIZE" (natOf? Word.count) }
  coverage := { CoverageSettings.empty with
    python := env.read? "PYTHON" some
    timeoutSeconds := env.read? "TIMEOUT_SECS" (natOf? Word.count) }
  storage := {
    path := env.read? "STORAGE_PATH" some
    retentionDays := env.read? "RETENTION_DAYS" intOf?
    enabled := env.read? "STORAGE_ENABLED" boolOf? }

def home? (env : Environment) : Option Path :=
  ((env.lookup "HOME") <|> (env.lookup "USERPROFILE")).map (⟨·⟩)

end Environment

structure CommandLine where
  similarThreshold : Option Float
  minClusterSize : Option Nat
  python : Option String
  timeoutSeconds : Option Nat
  storagePath : Option String
  storageEnabled : Option Bool

namespace CommandLine

def empty : CommandLine := ⟨none, none, none, none, none, none⟩

def config (c : CommandLine) : Config where
  duplicates := { DuplicateSettings.empty with
    similarThreshold := c.similarThreshold
    minClusterSize := c.minClusterSize }
  coverage := { CoverageSettings.empty with
    python := c.python
    timeoutSeconds := c.timeoutSeconds }
  storage := { StorageSettings.empty with
    path := c.storagePath
    enabled := c.storageEnabled }

end CommandLine

namespace Config

def projectFile : String := "drill-sergeant.toml"

def userFile? (env : Environment) : Option Path :=
  env.home?.map fun home => (home.join ".drill-sergeant").join "config.toml"

def ofFile (d : Disk) (p : Path) : Except ConfigError Config :=
  match d.readText p with
  | .ok text => ofText p.text text
  | .error _ => .error (.fileNotFound p.text)

def fileLayer (d : Disk) (p : Path) : Except ConfigError Config :=
  if (d.find p).isOk then ofFile d p else .ok .empty

/-- The user's layer. A file that cannot be read counts as absent, one that makes no sense does not. -/
def userLayer (d : Disk) (env : Environment) : Except ConfigError Config :=
  match userFile? env with
  | none => .ok .empty
  | some p =>
    match fileLayer d p with
    | .error (.fileNotFound _) => .ok .empty
    | result => result

def load (d : Disk) (env : Environment) (root : Path) (cli : CommandLine) :
    Except ConfigError Config := do
  let user ← userLayer d env
  let project ← fileLayer d (root.join projectFile)
  let config := cli.config.overlay (env.config.overlay (project.overlay user))
  config.validate
  return config

end Config

end TestTwins
