import TestTwins.Coverage.Measurement
import TestTwins.Similarity.Jaccard
import TestTwins.TestId
import TestTwins.Word

namespace TestTwins

structure Fingerprint where
  test : String
  file : Path
  hash : String
  vector : List Float
  pattern : String
  threshold : Float

namespace Fingerprint

def hashInput (r : Record Float) : String :=
  String.intercalate ":" [toString r.linesCovered, toString r.linesTotal,
    toString r.branchesCovered, toString r.branchesTotal,
    Decimal.text .plain "NaN" "inf" r.percentage] ++
  if r.covered.isEmpty then "" else ":" ++ joinLines r.covered

section

variable {K : Type} [Scalar K]

def density (lines : List Nat) : K :=
  match lines.head?, lines.getLast? with
  | some first, some last =>
    if lines.length = 1 then Scalar.one
    else Scalar.one / (Scalar.one + Scalar.ratio (last - first) (lines.length - 1))
  | _, _ => Scalar.zero

def spread (lines : List Nat) (total : Nat) : K :=
  match lines.head?, lines.getLast? with
  | some first, some last => Scalar.ratio (last - first) total
  | _, _ => Scalar.zero

def vectorOf (r : Record K) : List K :=
  let total := max r.linesTotal 1
  let lines := r.covered.toList
  [r.percentage / Scalar.ofNat 100, Scalar.ratio r.linesCovered total,
    Scalar.ratio r.branchesCovered (max r.branchesTotal 1), density lines, spread lines total]

end

def patternOf (r : Record Float) : String :=
  let parts := ["coverage:" ++ Decimal.fixed 1 r.percentage ++ "%",
    "lines:" ++ toString r.linesCovered ++ "/" ++ toString r.linesTotal,
    "branches:" ++ toString r.branchesCovered ++ "/" ++ toString r.branchesTotal]
  let signature := match r.signature with
    | some s => if s == "" then [] else ["signature:" ++ s]
    | none => []
  String.intercalate "|" (parts ++ signature)

def standardThreshold : Float := 0.8

def ofRecord (r : Record Float) : Fingerprint :=
  ⟨r.test, r.file, Digest.hex128 (hashInput r), vectorOf r, patternOf r, standardThreshold⟩

def sum (xs : List Float) : Float := xs.foldl (· + ·) (-0.0)

def clampUnit (x : Float) : Float := if x < 0 then 0 else if 1 < x then 1 else x

def cosine (a b : List Float) : Float :=
  let pairs := a.zip b
  if pairs.isEmpty then 0
  else
    let dot := sum (pairs.map fun (x, y) => x * y)
    let lengthA := (sum (pairs.map fun (x, _) => x * x)).sqrt
    let lengthB := (sum (pairs.map fun (_, y) => y * y)).sqrt
    if lengthA == 0 || lengthB == 0 then 0 else clampUnit (dot / (lengthA * lengthB))

def patternSimilarity (a b : String) : Float :=
  if a == "" || b == "" then 0
  else
    let (s, t) := (tokenSet a, tokenSet b)
    if jointCount s t == 0 then 0 else Scalar.ratio (sharedCount s t) (jointCount s t)

def similarity (a b : Fingerprint) : Float :=
  if a.hash != "" && a.hash == b.hash then 1
  else if !a.vector.isEmpty && !b.vector.isEmpty then cosine a.vector b.vector
  else patternSimilarity a.pattern b.pattern

end Fingerprint

/-- A key that orders all doubles, the negative ones first and zero with a sign before zero. -/
def orderKey (x : Float) : Int :=
  let bits := x.toBits.toNat
  if bits < Word.half then bits else -((bits : Int) - Word.half) - 1

class Ranked (K : Type) where
  notAbove : K → K → Bool

instance : Ranked Float where
  notAbove x y := orderKey x ≤ orderKey y

instance : Ranked Rat where
  notAbove x y := x ≤ y

/-- Scored items, best first; equal scores keep their order. -/
def sortByScore {K : Type} [Ranked K] (items : List (α × K)) : List (α × K) :=
  items.mergeSort fun a b => Ranked.notAbove b.2 a.2

abbrev FingerprintIndex := Table String Fingerprint

namespace FingerprintIndex

def keyOf (r : Record Float) : String := TestId.featureKey ⟨r.test, r.file.text⟩

def generate (t : FingerprintIndex) (r : Record Float) : FingerprintIndex × Fingerprint :=
  let f := Fingerprint.ofRecord r
  (t.insert (keyOf r) f, f)

def findSimilar (t : FingerprintIndex) (target : Fingerprint) (threshold : Float) :
    List (Fingerprint × Float) :=
  let scored := (t.values.filter (·.test != target.test)).map fun f => (f, target.similarity f)
  sortByScore (scored.filter fun s => threshold ≤ s.2)

end FingerprintIndex

end TestTwins
