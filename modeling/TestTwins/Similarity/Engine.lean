import TestTwins.Coverage.Record
import TestTwins.Features.Table
import TestTwins.Similarity.Jaccard

/-! How alike two tests are: four scores and their weighted sum. The engine remembers what it has
computed; whatever changes the data it computes from also makes it forget. -/

namespace TestTwins

structure Scores (K : Type) where
  coverage : K
  mock : K
  exception : K
  shape : K
  overall : K

structure Thresholds (K : Type) where
  exact : K
  near : K
  similar : K

structure Weights (K : Type) where
  coverage : K
  mock : K
  exception : K
  shape : K

def Thresholds.standard : Thresholds Float := ⟨0.98, 0.85, 0.70⟩

def Weights.standard : Weights Float := ⟨0.4, 0.3, 0.2, 0.1⟩

variable {K : Type} [Scalar K]

def Weights.overall (w : Weights K) (coverage mock exception shape : K) : K :=
  coverage * w.coverage + mock * w.mock + exception * w.exception + shape * w.shape

structure ThresholdUpdate (K : Type) where
  exact : Option K
  near : Option K
  similar : Option K

def acceptThreshold (old : K) : Option K → K
  | some v => if Scalar.zero ≤ v ∧ v ≤ Scalar.one then v else old
  | none => old

def Thresholds.update (t : Thresholds K) (u : ThresholdUpdate K) : Thresholds K :=
  ⟨acceptThreshold t.exact u.exact, acceptThreshold t.near u.near,
    acceptThreshold t.similar u.similar⟩

def pairKey (a b : String) : String := if a ≤ b then a ++ ":" ++ b else b ++ ":" ++ a

structure Engine (K : Type) where
  weights : Weights K
  thresholds : Thresholds K
  coverage : Table String (Record K)
  features : FeatureTable
  cache : Table String (Scores K)

namespace Engine

def new (weights : Weights K) (thresholds : Thresholds K) : Engine K :=
  ⟨weights, thresholds, .empty, .empty, .empty⟩

def clearCache (e : Engine K) : Engine K := { e with cache := .empty }

def setCoverage (e : Engine K) (coverage : Table String (Record K)) : Engine K :=
  { e with coverage := coverage, cache := .empty }

def insertCoverage (e : Engine K) (key : String) (r : Record K) : Engine K :=
  { e with coverage := e.coverage.insert key r, cache := .empty }

def setFeatures (e : Engine K) (features : FeatureTable) : Engine K :=
  { e with features := features, cache := .empty }

def clearAll (e : Engine K) : Engine K :=
  { e with coverage := .empty, features := .empty, cache := .empty }

def updateThresholds (e : Engine K) (u : ThresholdUpdate K) : Engine K :=
  { e with thresholds := e.thresholds.update u, cache := .empty }

def cacheSize (e : Engine K) : Nat := e.cache.size

def coverageScore (e : Engine K) (a b : String) : K :=
  match e.coverage.get? a, e.coverage.get? b with
  | some r, some s => jaccard r.covered s.covered
  | _, _ => Scalar.zero

/-- The features of a test; unknown tests have empty ones, and a malformed key has none. -/
def featuresOf? (e : Engine K) (key : String) : Option Signature :=
  (toFeatureKey? key).map fun k => (e.features.get? k).getD .empty

def compute (e : Engine K) (a b : String) : Scores K :=
  let coverage := e.coverageScore a b
  let (mock, exception, shape) := match e.featuresOf? a, e.featuresOf? b with
    | some s, some t =>
      (mockSimilarity s.mocks t.mocks, tokenJaccard s.exceptions t.exceptions,
        shapeSimilarity s.shape t.shape)
    | _, _ => (Scalar.zero, Scalar.zero, Scalar.zero)
  ⟨coverage, mock, exception, shape, e.weights.overall coverage mock exception shape⟩

def compare (a b : String) (e : Engine K) : Scores K × Engine K :=
  match e.cache.get? (pairKey a b) with
  | some s => (s, e)
  | none =>
    let s := e.compute a b
    (s, { e with cache := e.cache.insert (pairKey a b) s })

def similarity (a b : String) (e : Engine K) : K × Engine K :=
  let (s, e) := e.compare a b
  (s.overall, e)

end Engine

end TestTwins
