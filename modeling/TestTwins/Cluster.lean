import TestTwins.Digest
import TestTwins.Similarity.Engine

/-! Groups of tests that are alike. The first test that is in no group yet starts one and takes in every
later free test that is similar to it; small groups are dropped. The score of a group is the mean over
all pairs of its members. Scores come from a scorer, which may keep a state of its own. -/

namespace TestTwins

abbrev Scorer (σ K : Type) := String → String → StateM σ K

inductive ClusterType
  | exact
  | near
  | similar
  deriving DecidableEq, Repr

namespace ClusterType

def name : ClusterType → String
  | exact => "exact_duplicates"
  | near => "near_duplicates"
  | similar => "similar_patterns"

def suggestion (t : ClusterType) (members : Nat) : String :=
  match t with
  | exact =>
    "Consider consolidating " ++ toString members ++
      " identical tests into a single parametrized test"
  | near =>
    "Consider consolidating " ++ toString members ++
      " similar tests using @pytest.mark.parametrize"
  | similar =>
    "Review " ++ toString members ++ " tests for potential consolidation opportunities"

variable {K : Type} [Scalar K]

def classify (score : K) (t : Thresholds K) : ClusterType :=
  if t.exact ≤ score then exact else if t.near ≤ score then near else similar

end ClusterType

structure ClusterConfig (K : Type) where
  thresholds : Thresholds K
  minSize : Nat
  maxSize : Nat

structure Cluster (K : Type) where
  id : String
  tests : List TestId
  score : K
  type : ClusterType
  representative : TestId
  suggestion : String

def clusterId (t : TestId) : String := Digest.short (t.name ++ ":" ++ t.file)

def pairsOf : List α → List (α × α)
  | [] => []
  | a :: rest => rest.map (a, ·) ++ pairsOf rest

namespace Cluster

variable {K σ : Type} [Scalar K]

def mean (scores : List K) : K :=
  if scores.isEmpty then Scalar.zero
  else scores.foldl (· + ·) Scalar.zero / Scalar.ofNat scores.length

def scoreOf (scorer : Scorer σ K) (a b : TestId) : StateM σ K :=
  scorer a.similarityKey b.similarityKey

def build (scorer : Scorer σ K) (config : ClusterConfig K) (seed : TestId) (others : List TestId) :
    StateM σ (Cluster K) := do
  let tests := seed :: others
  let scores ← (pairsOf tests).mapM fun (a, b) => scoreOf scorer a b
  let score := mean scores
  let type := ClusterType.classify score config.thresholds
  return ⟨clusterId seed, tests, score, type, seed, type.suggestion tests.length⟩

def divide (scorer : Scorer σ K) (config : ClusterConfig K) (seed : TestId) :
    List TestId → StateM σ (List TestId × List TestId)
  | [] => return ([], [])
  | t :: rest => do
    let score ← scoreOf scorer seed t
    let (taken, free) ← divide scorer config seed rest
    return if config.thresholds.similar ≤ score then (t :: taken, free) else (taken, t :: free)

/-- The groups of a list of free tests. No more rounds are needed than there are tests. -/
def rounds (scorer : Scorer σ K) (config : ClusterConfig K) :
    Nat → List TestId → StateM σ (List (Cluster K))
  | 0, _ => return []
  | _, [] => return []
  | n + 1, seed :: rest => do
    let (taken, free) ← divide scorer config seed rest
    if taken.length + 1 < config.minSize then rounds scorer config n free
    else
      let cluster ← build scorer config seed taken
      return cluster :: (← rounds scorer config n free)

/-- The groups among tests given by their keys; malformed keys are left out. -/
def ofKeys (scorer : Scorer σ K) (config : ClusterConfig K) (keys : List String) :
    StateM σ (List (Cluster K)) :=
  let ids := keys.filterMap TestId.ofFeatureKey?
  rounds scorer config ids.length ids

end Cluster

end TestTwins
