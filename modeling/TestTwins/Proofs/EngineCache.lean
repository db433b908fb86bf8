import Mathlib.Data.Finset.Card
import TestTwins.Proofs.KeyLaws
import TestTwins.Proofs.ScoreLaws

/-! What the engine remembers does not show in its answers as long as the keys are those of tests with
plain names. Operations are data here, so that a history is a list; what a history has compared since the
engine last forgot is a set of unordered pairs, and the memory holds the current scores of exactly these
pairs. -/

namespace TestTwins.Engine

variable {K : Type}

inductive Op (K : Type) : Type
  | setCoverage (coverage : Table String (Record K))
  | insertCoverage (key : String) (record : Record K)
  | editFeatures (edit : FeatureTable → FeatureTable)
  | compare (a b : String)
  | similarity (a b : String)
  | clearCache
  | clearAll
  | updateThresholds (update : ThresholdUpdate K)

namespace Op

/-- The pairs compared since the engine last forgot: a question adds one, all else makes it forget. -/
def comparedAfter : Op K → Finset (Sym2 String) → Finset (Sym2 String)
  | .compare a b, pairs => insert s(a, b) pairs
  | .similarity a b, pairs => insert s(a, b) pairs
  | _, _ => ∅

def OnTests : Op K → Prop
  | .compare a b => IsTestKey a ∧ IsTestKey b
  | .similarity a b => IsTestKey a ∧ IsTestKey b
  | _ => True

end Op

def compared (ops : List (Op K)) : Finset (Sym2 String) :=
  ops.foldl (fun pairs op => op.comparedAfter pairs) ∅

variable [Scalar K]

def Op.apply : Op K → Engine K → Engine K
  | .setCoverage c, e => e.setCoverage c
  | .insertCoverage key r, e => e.insertCoverage key r
  | .editFeatures edit, e => e.setFeatures (edit e.features)
  | .compare a b, e => (e.compare a b).2
  | .similarity a b, e => (e.similarity a b).2
  | .clearCache, e => e.clearCache
  | .clearAll, e => e.clearAll
  | .updateThresholds u, e => e.updateThresholds u

def Op.applyBare : Op K → Engine K → Engine K
  | .compare _ _, e => e
  | .similarity _ _, e => e
  | op, e => op.apply e

def run (e : Engine K) (ops : List (Op K)) : Engine K := ops.foldl (fun e op => op.apply e) e

def runBare (e : Engine K) (ops : List (Op K)) : Engine K := ops.foldl (fun e op => op.applyBare e) e

@[simp] theorem clearCache_compare (e : Engine K) (a b : String) :
    (e.compare a b).2.clearCache = e.clearCache := by
  simp only [compare]
  split <;> rfl

theorem compare_fst (e : Engine K) (a b : String) :
    (e.compare a b).1 = (e.cache.get? (pairKey a b)).getD (e.compute a b) := by
  simp only [compare]
  split <;> simp [*]

theorem get?_cache_compare (e : Engine K) (a b key : String) :
    (e.compare a b).2.cache.get? key =
      if pairKey a b = key then some (e.compare a b).1 else e.cache.get? key := by
  simp only [compare]
  split
  · rename_i s hs
    split
    · rename_i hkey
      rw [← hkey, hs]
    · rfl
  · rw [Table.get?_insert]

theorem compute_eq_of_clearCache {e e' : Engine K} (h : e.clearCache = e'.clearCache) :
    e.compute = e'.compute := by
  change e.clearCache.compute = e'.clearCache.compute
  rw [h]

theorem compute_eq_of_pair (e : Engine K) {a b c d : String} (h : s(a, b) = s(c, d)) :
    e.compute a b = e.compute c d := by
  rcases Sym2.eq_iff.1 h with ⟨rfl, rfl⟩ | ⟨rfl, rfl⟩
  · rfl
  · exact e.compute_comm a b

/-- A question is answered as it was before another one, unless different pairs have the same key. -/
theorem compare_compare (e : Engine K) {a b c d : String}
    (h : pairKey a b = pairKey c d → s(a, b) = s(c, d)) :
    ((e.compare a b).2.compare c d).1 = (e.compare c d).1 := by
  have hcompute : (e.compare a b).2.compute = e.compute := compute_eq_of_clearCache (by simp)
  rw [compare_fst, get?_cache_compare, hcompute]
  split
  · rename_i hkey
    rw [Option.getD_some, compare_fst, compare_fst, hkey, e.compute_eq_of_pair (h hkey)]
  · rw [compare_fst]

/-- The memory of an engine is that of the given pairs, each with the scores it has now. -/
structure Remembers (e : Engine K) (pairs : Finset (Sym2 String)) : Prop where
  lookup : ∀ {a b : String}, IsTestKey a → IsTestKey b →
    e.cache.get? (pairKey a b) = if s(a, b) ∈ pairs then some (e.compute a b) else none
  size : e.cacheSize = pairs.card

namespace Remembers

variable {e : Engine K} {pairs : Finset (Sym2 String)} {a b : String}

theorem of_forgot (h : e.cache = .empty) : Remembers e ∅ where
  lookup _ _ := by simp [h]
  size := by rw [cacheSize, h]; rfl

theorem compare_fst (h : Remembers e pairs) (ha : IsTestKey a) (hb : IsTestKey b) :
    (e.compare a b).1 = e.compute a b := by
  rw [Engine.compare_fst, h.lookup ha hb]
  split <;> rfl

theorem cacheSize_compare (h : Remembers e pairs) (ha : IsTestKey a) (hb : IsTestKey b) :
    (e.compare a b).2.cacheSize = (insert s(a, b) pairs).card := by
  have hlookup := h.lookup ha hb
  by_cases hp : s(a, b) ∈ pairs
  · rw [if_pos hp] at hlookup
    rw [Finset.insert_eq_of_mem hp, ← h.size]
    simp only [compare, hlookup]
  · rw [if_neg hp] at hlookup
    have hfresh : pairKey a b ∉ e.cache.keys := (Table.get?_eq_none _ _).1 hlookup
    rw [Finset.card_insert_of_notMem hp, ← h.size]
    simp only [compare, hlookup, cacheSize, Table.size_insert, if_neg hfresh]

theorem compare_snd (h : Remembers e pairs) (ha : IsTestKey a) (hb : IsTestKey b) :
    Remembers (e.compare a b).2 (insert s(a, b) pairs) where
  lookup {c d} hc hd := by
    have hkey := pairKey_inj ha hb hc hd
    rw [get?_cache_compare, h.compare_fst ha hb, h.lookup hc hd,
      compute_eq_of_clearCache (e.clearCache_compare a b)]
    -- Another pair has another key, so only the new pair is found anew.
    by_cases hcd : s(a, b) = s(c, d)
    · rw [if_pos (hkey.2 hcd), if_pos (hcd ▸ Finset.mem_insert_self _ _), e.compute_eq_of_pair hcd]
    · rw [if_neg (mt hkey.1 hcd)]
      simp only [Finset.mem_insert, Ne.symm hcd, false_or]
  size := h.cacheSize_compare ha hb

theorem apply (h : Remembers e pairs) (op : Op K) (hop : op.OnTests) :
    Remembers (op.apply e) (op.comparedAfter pairs) := by
  cases op with
  | compare a b => exact h.compare_snd hop.1 hop.2
  | similarity a b => exact h.compare_snd hop.1 hop.2
  | setCoverage c => exact of_forgot rfl
  | insertCoverage key r => exact of_forgot rfl
  | editFeatures edit => exact of_forgot rfl
  | clearCache => exact of_forgot rfl
  | clearAll => exact of_forgot rfl
  | updateThresholds u => exact of_forgot rfl

theorem run (h : Remembers e pairs) {ops : List (Op K)} (hops : ∀ op ∈ ops, op.OnTests) :
    Remembers (e.run ops) (ops.foldl (fun pairs op => op.comparedAfter pairs) pairs) := by
  induction ops generalizing e pairs with
  | nil => exact h
  | cons op ops ih =>
    obtain ⟨hop, hops⟩ := List.forall_mem_cons.1 hops
    exact ih (h.apply op hop) hops

end Remembers

theorem remembers_run_new (w : Weights K) (t : Thresholds K) {ops : List (Op K)}
    (hops : ∀ op ∈ ops, op.OnTests) : Remembers ((new w t).run ops) (compared ops) :=
  (Remembers.of_forgot rfl).run hops

theorem clearCache_apply (e : Engine K) (op : Op K) :
    (op.apply e).clearCache = op.applyBare e.clearCache := by
  cases op with
  | compare a b => exact e.clearCache_compare a b
  | similarity a b => exact e.clearCache_compare a b
  | setCoverage c => rfl
  | insertCoverage key r => rfl
  | editFeatures edit => rfl
  | clearCache => rfl
  | clearAll => rfl
  | updateThresholds u => rfl

theorem clearCache_run (e : Engine K) (ops : List (Op K)) :
    (e.run ops).clearCache = e.clearCache.runBare ops := by
  induction ops generalizing e with
  | nil => rfl
  | cons op ops ih =>
    change ((op.apply e).run ops).clearCache = (op.applyBare e.clearCache).runBare ops
    rw [ih, clearCache_apply]

theorem apply_weights (op : Op K) (e : Engine K) : (op.apply e).weights = e.weights := by
  change (op.apply e).clearCache.weights = e.weights
  rw [clearCache_apply]
  cases op <;> rfl

theorem run_weights (e : Engine K) (ops : List (Op K)) : (e.run ops).weights = e.weights := by
  induction ops generalizing e with
  | nil => rfl
  | cons op ops ih => exact (ih _).trans (apply_weights op e)

/-- After any history of a new engine that compares well-formed tests, the scores of a pair are those
computed from the tables that the edits of the history alone have left, and the memory is as large as
the number of pairs asked for since it was last emptied. -/
theorem compare_transparent (w : Weights K) (t : Thresholds K) (ops : List (Op K))
    (hops : ∀ op ∈ ops, op.OnTests) (a b : String) (ha : IsTestKey a) (hb : IsTestKey b) :
    (((new w t).run ops).compare a b).1 = ((new w t).run ops).compute a b ∧
      (((new w t).run ops).similarity a b).1 = (((new w t).run ops).compute a b).overall ∧
      ((new w t).run ops).clearCache = (new w t).runBare ops ∧
      ((new w t).run ops).cacheSize = (compared ops).card := by
  have h := remembers_run_new w t hops
  have hscores := h.compare_fst ha hb
  exact ⟨hscores, congrArg Scores.overall hscores, clearCache_run _ ops, h.size⟩

theorem compare_transparent_colons :
    IsTestKey "1::a:" ∧ IsTestKey "2::b" ∧
      (((new Weights.standard Thresholds.standard).run
          [.clearAll, .compare "1::a:" "2::b", .similarity "2::b" "1::a:"]).compare "2::b" "1::a:").1 =
        ((new Weights.standard Thresholds.standard).run
          [.clearAll, .compare "1::a:" "2::b", .similarity "2::b" "1::a:"]).compute "2::b" "1::a:" ∧
      ((new Weights.standard Thresholds.standard).run
        [.clearAll, .compare "1::a:" "2::b", .similarity "2::b" "1::a:"]).cacheSize = 1 := by
  have ha : IsTestKey "1::a:" := ⟨⟨"1", "a:"⟩, by decide, rfl⟩
  have hb : IsTestKey "2::b" := ⟨⟨"2", "b"⟩, by decide, rfl⟩
  obtain ⟨hscores, -, -, hsize⟩ := compare_transparent Weights.standard Thresholds.standard
    [.clearAll, .compare "1::a:" "2::b", .similarity "2::b" "1::a:"]
    (by simp [Op.OnTests, ha, hb]) "2::b" "1::a:" hb ha
  exact ⟨ha, hb, hscores, hsize.trans (by decide)⟩

end TestTwins.Engine
