import TestTwins.Features.Table
import TestTwins.Sources.Matching

namespace TestTwins.Sources

structure Limits where
  parentDepth : Nat
  selectedFiles : Nat
  candidateFiles : Nat
  deriving DecidableEq, Repr

def Limits.standard : Limits := ⟨5, 20, 50⟩

def systemDirectories : List String :=
  ["/", "/usr", "/var", "/etc", "/bin", "/sbin", "/lib", "/lib64", "/opt", "/home", "/root",
   "/tmp", "/sys", "/proc", "/dev",
   "C:\\", "C:\\Windows", "C:\\Program Files", "C:\\Program Files (x86)", "C:\\System32",
   "C:\\Users", "C:\\ProgramData"]

def isSystemDirectory (p : Path) : Bool := systemDirectories.contains p.text

def isSafe (d : Disk) (p : Path) : Bool :=
  !p.isEmpty && !isSystemDirectory p && d.isDirectory p

/-- The directories above a path, nearest first, up to the first that is not safe. The nearest one counts
at any depth. -/
def safeParents (d : Disk) (limits : Limits) (start : Path) : List Path :=
  (start.ancestors.takeWhile (isSafe d)).take (max 1 limits.parentDepth)

def joinNames (p : Path) (names : List String) : Path := names.foldl Path.join p

def pythonFiles (d : Disk) (p : Path) : List Path :=
  match d.find p with
  | .error _ => []
  | .ok (_, .file _) => if p.extension? == some "py" then [p] else []
  | .ok (place, .directory) =>
    ((d.descendants place).filterMap fun (names, e) =>
      match e with
      | .file _ => some (joinNames p names)
      | .directory => none).filter fun q => q.extension? == some "py"

def isPackage (d : Disk) (p : Path) : Bool := d.isFile (p.join "__init__.py")

def packagesIn (d : Disk) (p : Path) : List Path :=
  match d.list p with
  | .error _ => []
  | .ok names =>
    let names := names.filter fun name =>
      !name.startsWith "test" && d.isDirectory (p.join name) && isPackage d (p.join name)
    (names.mergeSort fun a b => a ≤ b).map p.join

def conventionalFiles (d : Disk) (testDirectory : Path) : List Path :=
  match testDirectory.parent? with
  | none => []
  | some project => ["src", "lib"].flatMap fun name =>
    if d.isDirectory (project.join name) then pythonFiles d (project.join name) else []

def distinct (ps : List Path) : List Path := ps.foldl Path.pushNew []

def candidates (d : Disk) (limits : Limits) (testFile : Path) : List Path :=
  match testFile.parent? with
  | none => []
  | some directory =>
    let packages := (safeParents d limits directory).flatMap (packagesIn d)
    let found := conventionalFiles d directory ++ packages.flatMap (pythonFiles d)
    distinct (found.filter fun p => !isTestFile p)

def siblings (d : Disk) (imported : Path) : List Path :=
  match imported.parent? with
  | none => []
  | some package => (pythonFiles d package).filter fun p => !isTestFile p

/-- What is selected: the lead, then imported files and their siblings. Without imports it is the lead
and the candidates. -/
def select (d : Disk) (limits : Limits) (candidates imported : List Path) (lead : Option Path) :
    List Path :=
  let lead := lead.toList
  if imported.isEmpty then (candidates.foldl Path.pushNew lead).take limits.candidateFiles
  else
    let all := imported ++ imported.flatMap (siblings d)
    (all.foldl Path.pushNew lead).take limits.selectedFiles

def resolve (d : Disk) (limits : Limits) (testFile : Path) : List Path :=
  let candidates := candidates d limits testFile
  match parseFile d testFile with
  | .error _ => candidates
  | .ok module =>
    let names := module.importedModules.filter fun m => !isStandardModule m
    let lead := if module.definesNonTest then some testFile else none
    select d limits candidates (findModules names candidates) lead

def firstOutside (d : Disk) : List Path → Option Path
  | [] => none
  | [p] => some p
  | p :: q :: rest => if isPackage d p then firstOutside d (q :: rest) else some p

/-- The nearest directory above a file that is not a package. The working directory by its empty name is
none. -/
def packageRoot (d : Disk) (file : Path) : Option Path :=
  match file.ancestors with
  | [] => none
  | p :: rest => (firstOutside d (p :: rest.takeWhile (!·.isEmpty))).filter (!·.isEmpty)

def importRoots (d : Disk) (testFile : Path) (sources : List Path) : List Path :=
  let roots := (testFile :: sources).filterMap (packageRoot d)
  let project := ((testFile.parent?.bind Path.parent?).filter (!·.isEmpty)).toList
  distinct (roots ++ project)

end TestTwins.Sources
