import TestTwins.Config

namespace TestTwins

structure Detector (K : Type) where
  engine : Engine K
  minSize : Nat
  maxSize : Nat

namespace Detector

variable {K : Type} [Scalar K]

def new (weights : Weights K) (thresholds : Thresholds K) (minSize maxSize : Nat) : Detector K :=
  ⟨.new weights thresholds, minSize, maxSize⟩

def ofConfig (c : Config) : Detector Float :=
  new c.duplicates.weights c.duplicates.thresholds c.duplicates.minSize c.duplicates.maxSize

def clusterConfig (d : Detector K) : ClusterConfig K := ⟨d.engine.thresholds, d.minSize, d.maxSize⟩

def readFiles (disk : Disk) : List Path → FeatureTable → FeatureTable × List PipelineError
  | [], t => (t, [])
  | p :: rest, t =>
    match t.addFile disk p with
    | .ok (t, _) => readFiles disk rest t
    | .error e =>
      let (t, errors) := readFiles disk rest t
      (t, .parse e :: errors)

def analyze (disk : Disk) (files : List Path) (coverage : Table String (Record K)) (d : Detector K) :
    Outcome (List (Cluster K)) × Detector K :=
  let (features, errors) := readFiles disk files d.engine.features
  let engine := (d.engine.setCoverage coverage).setFeatures features
  let (clusters, engine) := Cluster.ofKeys Engine.similarity d.clusterConfig features.keys engine
  (⟨clusters, errors⟩, { d with engine := engine })

def updateThresholds (d : Detector K) (u : ThresholdUpdate K) : Detector K :=
  { d with engine := d.engine.updateThresholds u }

def clear (d : Detector K) : Detector K := { d with engine := d.engine.clearAll }

end Detector

end TestTwins
