import TestTwins.Detector
import TestTwins.Proofs.Clustering
import TestTwins.Proofs.EngineCache

namespace TestTwins

namespace Engine

variable {K : Type} [Scalar K]

def Op.thresholdsAfter : Op K → Thresholds K → Thresholds K
  | .updateThresholds u, t => t.update u
  | _, t => t

theorem clearAll_compare (e : Engine K) (a b : String) : (e.compare a b).2.clearAll = e.clearAll := by
  change (e.compare a b).2.clearCache.clearAll = e.clearCache.clearAll
  rw [clearCache_compare]

theorem clearAll_apply (op : Op K) (e : Engine K) :
    (op.apply e).clearAll = new e.weights (op.thresholdsAfter e.thresholds) := by
  cases op with
  | compare a b => exact e.clearAll_compare a b
  | similarity a b => exact e.clearAll_compare a b
  | setCoverage c => rfl
  | insertCoverage key r => rfl
  | editFeatures edit => rfl
  | clearCache => rfl
  | clearAll => rfl
  | updateThresholds u => rfl

end Engine

namespace Detector

variable {K : Type} [Scalar K]

/-- What can be asked of a detector. Each analysis meets the disk as it is at that time, and the engine
inside can be used directly. -/
inductive Op (K : Type) : Type
  | analyze (disk : Disk) (files : List Path) (coverage : Table String (Record K))
  | updateThresholds (update : ThresholdUpdate K)
  | clear
  | engine (op : Engine.Op K)

def Op.apply : Op K → Detector K → Detector K
  | .analyze disk files coverage, d => (d.analyze disk files coverage).2
  | .updateThresholds u, d => d.updateThresholds u
  | .clear, d => d.clear
  | .engine op, d => { d with engine := op.apply d.engine }

def run (d : Detector K) (ops : List (Op K)) : Detector K := ops.foldl (fun d op => op.apply d) d

def Op.thresholdsAfter : Op K → Thresholds K → Thresholds K
  | .updateThresholds u, t => t.update u
  | .engine op, t => op.thresholdsAfter t
  | _, t => t

def thresholdsAfter (t : Thresholds K) (ops : List (Op K)) : Thresholds K :=
  ops.foldl (fun t op => op.thresholdsAfter t) t

theorem clear_analyze (d : Detector K) (disk : Disk) (files : List Path)
    (coverage : Table String (Record K)) : (d.analyze disk files coverage).2.clear = d.clear := by
  have hkeeps : ∀ a b, Cluster.Keeps (fun e : Engine K => e.clearAll = d.engine.clearAll)
      (Engine.similarity a b) :=
    fun a b e he => (e.clearAll_compare a b).trans he
  have hengine : (d.analyze disk files coverage).2.engine.clearAll = d.engine.clearAll :=
    Cluster.keeps_ofKeys hkeeps d.clusterConfig _ _ rfl
  exact congrArg (fun e => { d with engine := e }) hengine

theorem clear_apply (op : Op K) (d : Detector K) : (op.apply d).clear =
    new d.engine.weights (op.thresholdsAfter d.engine.thresholds) d.minSize d.maxSize := by
  cases op with
  | analyze disk files coverage => exact d.clear_analyze disk files coverage
  | updateThresholds u => rfl
  | clear => rfl
  | engine op => exact congrArg (fun e => { d with engine := e }) (Engine.clearAll_apply op d.engine)

theorem clear_run {w : Weights K} {t : Thresholds K} {minSize maxSize : Nat} {d : Detector K}
    (h : d.clear = new w t minSize maxSize) (ops : List (Op K)) :
    (d.run ops).clear = new w (thresholdsAfter t ops) minSize maxSize := by
  induction ops generalizing d t with
  | nil => exact h
  | cons op ops ih =>
    apply ih
    have hengine : d.engine.clearAll = Engine.new w t := congrArg engine h
    have hmin : d.minSize = minSize := congrArg Detector.minSize h
    have hmax : d.maxSize = maxSize := congrArg Detector.maxSize h
    have hweights : d.engine.weights = w := congrArg Engine.weights hengine
    have hthresholds : d.engine.thresholds = t := congrArg Engine.thresholds hengine
    rw [clear_apply, hweights, hthresholds, hmin, hmax]

/-- After any history and a clearing, an analysis gives what it gives in a new detector with the weights
and bounds of the old and the thresholds that are in force now, and leaves the same detector behind. -/
theorem analyze_after_clear (w : Weights K) (t : Thresholds K) (minSize maxSize : Nat)
    (ops : List (Op K)) (disk : Disk) (files : List Path) (coverage : Table String (Record K)) :
    ((new w t minSize maxSize).run ops).engine.thresholds = thresholdsAfter t ops ∧
      ((new w t minSize maxSize).run ops).clear.analyze disk files coverage =
        (new w ((new w t minSize maxSize).run ops).engine.thresholds minSize maxSize).analyze disk files
          coverage := by
  have hclear : ((new w t minSize maxSize).run ops).clear =
      new w (thresholdsAfter t ops) minSize maxSize := clear_run rfl ops
  have hthresholds : ((new w t minSize maxSize).run ops).engine.thresholds = thresholdsAfter t ops :=
    congrArg (fun d => d.engine.thresholds) hclear
  exact ⟨hthresholds, by rw [hclear, hthresholds]⟩

end Detector

end TestTwins
