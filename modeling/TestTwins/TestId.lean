/-! A test is named by its file and its function. Two written forms are in use: `file:test`, which is
read from the last colon, and `test::file`, which is read from the first double colon. -/

namespace TestTwins

def splitLast (c : Char) : List Char → Option (List Char × List Char)
  | [] => none
  | d :: rest =>
    match splitLast c rest with
    | some (a, b) => some (d :: a, b)
    | none => if d = c then some ([], rest) else none

def splitDouble : List Char → Option (List Char × List Char)
  | [] => none
  | ':' :: ':' :: rest => some ([], rest)
  | d :: rest => (splitDouble rest).map fun (a, b) => (d :: a, b)

structure TestId where
  name : String
  file : String
  deriving DecidableEq, Repr

namespace TestId

def ofParts? (name file : List Char) : Option TestId :=
  if name.isEmpty || file.isEmpty then none else some ⟨String.ofList name, String.ofList file⟩

def ofFeatureKey? (key : String) : Option TestId :=
  (splitLast ':' key.toList).bind fun (file, name) => ofParts? name file

def ofSimilarityKey? (key : String) : Option TestId :=
  (splitDouble key.toList).bind fun (name, file) => ofParts? name file

def featureKey (t : TestId) : String := t.file ++ ":" ++ t.name

def similarityKey (t : TestId) : String := t.name ++ "::" ++ t.file

end TestId

def toSimilarityKey? (key : String) : Option String :=
  (TestId.ofFeatureKey? key).map TestId.similarityKey

def toFeatureKey? (key : String) : Option String :=
  (TestId.ofSimilarityKey? key).map TestId.featureKey

end TestTwins
