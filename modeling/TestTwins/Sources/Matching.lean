import TestTwins.Path

namespace TestTwins.Sources

def standardModules : List String := [
  "os", "sys", "json", "datetime", "time", "random", "math", "collections", "itertools",
  "functools", "operator", "string", "re", "urllib", "http", "socket", "threading",
  "multiprocessing", "subprocess", "logging", "unittest", "pytest", "pathlib", "typing",
  "dataclasses", "enum", "abc", "contextlib", "copy", "pickle", "hashlib", "base64", "uuid",
  "tempfile", "shutil", "glob", "fnmatch", "stat", "fileinput", "linecache", "codecs",
  "locale", "gettext", "argparse", "configparser", "csv", "xml", "html", "email",
  "mimetypes", "platform", "ctypes", "warnings", "traceback", "inspect", "ast", "tokenize",
  "keyword", "builtins", "io", "textwrap", "unicodedata", "codeop", "py_compile",
  "compileall", "dis", "pickletools", "distutils", "setuptools"]

def infrastructure : List String := ["_", "test", "tests", "conftest"]

def dottedParts (name : String) : List String := name.splitOn "."

def isStandardModule (name : String) : Bool :=
  ((dottedParts name).head?.any standardModules.contains) ||
    infrastructure.any fun start => name.startsWith start

def isTestFile (p : Path) : Bool :=
  let name := (p.fileName?.getD "").toLower
  name.startsWith "test" || name.endsWith "_test.py" ||
    p.parent?.any fun parent => parent.names.any fun n => n == "test" || n == "tests"

/-- The names of a path as a dotted module has them: `pkg/mod.py` and `pkg/mod/__init__.py` both end
with `pkg`, `mod`. -/
def moduleNames (p : Path) : List String :=
  let names := (if p.isAbsolute then ["/"] else []) ++ p.names
  match names.reverse with
  | [] => []
  | last :: front =>
    if last == "__init__.py" then front.reverse
    else if last.endsWith ".py" then
      (String.ofList (last.toList.take (last.length - 3)) :: front).reverse
    else names

def endsWithParts (names parts : List String) : Bool :=
  parts.length ≤ names.length && names.drop (names.length - parts.length) == parts

def isModuleFile (name : String) (p : Path) : Bool :=
  p.fileStem? == some name ||
    ((p.parent?.bind Path.fileName?) == some name && p.fileName? == some "__init__.py") ||
    (let parts := dottedParts name
     1 < parts.length && endsWithParts (moduleNames p) parts)

def findModule? (name : String) (candidates : List Path) : Option Path :=
  let name := String.ofList (name.toList.dropWhile (· == '.'))
  if name == "" then none else candidates.find? (isModuleFile name)

def findModules (names : List String) (candidates : List Path) : List Path :=
  names.foldl (fun found name =>
    match findModule? name candidates with
    | some file => Path.pushNew found file
    | none => found) []

end TestTwins.Sources
