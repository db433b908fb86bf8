import Mathlib.Data.List.Shortlex
import Mathlib.Logic.Function.Iterate
import TestTwins.Python.Module

/-! Trees visited level by level. The loop over a queue takes as many turns as there are nodes. At any time
the queue holds the rest of one level and what has been added of the next, so the levels come one after the
other, each from left to right. Functions are met in this order: a search by name ends at the definition
that is nearest to the root and, of these, furthest to the left. -/

namespace TestTwins

theorem map_getElem?_range {α : Type} (l : List α) : (List.range l.length).map (l[·]?) = l.map some := by
  apply List.ext_getElem
  · simp
  · intro i hi _
    simp at hi
    simp [hi]

theorem find?_eq_some_iff_first {α : Type} {r : α → α → Prop} [Std.Asymm r] {l : List α}
    (h : l.Pairwise r) {p : α → Bool} {a : α} :
    l.find? p = some a ↔ a ∈ l ∧ p a ∧ ∀ b ∈ l, p b → b ≠ a → r a b := by
  induction l with
  | nil => simp
  | cons c l ih =>
    obtain ⟨hc, hl⟩ := List.pairwise_cons.1 h
    by_cases hp : p c
    · rw [List.find?_cons_of_pos hp, Option.some.injEq]
      constructor
      · rintro rfl
        refine ⟨List.mem_cons_self, hp, fun b hb _ hne => ?_⟩
        exact hc b ((List.mem_cons.1 hb).resolve_left hne)
      · rintro ⟨ha, -, hfirst⟩
        by_contra hne
        have hbefore : r c a := hc a ((List.mem_cons.1 ha).resolve_left (Ne.symm hne))
        exact Std.Asymm.asymm _ _ hbefore (hfirst c List.mem_cons_self hp hne)
    · rw [List.find?_cons_of_neg hp, ih hl]
      simp only [List.mem_cons, forall_eq_or_imp, hp]
      constructor
      · rintro ⟨ha, hpa, hfirst⟩
        exact ⟨.inr ha, hpa, nofun, hfirst⟩
      · rintro ⟨rfl | ha, hpa, -, hfirst⟩
        · exact absurd hpa hp
        · exact ⟨ha, hpa, hfirst⟩

theorem lex_append {α : Type} {r : α → α → Prop} {p q : List α} (h : List.Lex r p q)
    (hlength : p.length = q.length) (s t : List α) : List.Lex r (p ++ s) (q ++ t) := by
  induction h with
  | nil => simp at hlength
  | cons _ ih => exact .cons (ih (by simpa using hlength))
  | rel hab => exact .rel hab

namespace Python.Node

def turn : List Node × List Node → List Node × List Node
  | ([], met) => ([], met)
  | (n :: rest, met) => (rest ++ n.children, met ++ [n])

theorem sizes_turn (n : Node) (rest : List Node) :
    sizes (n :: rest) = sizes (rest ++ n.children) + 1 := by
  rw [sizes_append, sizes, size_eq]
  omega

theorem iterate_turn (queue met : List Node) :
    turn^[sizes queue] (queue, met) = ([], met ++ traverse queue) := by
  induction queue using traverse.induct generalizing met with
  | case1 => simp [sizes, traverse]
  | case2 n rest ih =>
    rw [sizes_turn, Function.iterate_succ_apply, turn, ih, traverse, List.append_assoc,
      List.singleton_append]

theorem iterate_turn_ne_nil {queue met : List Node} {k : Nat} (h : k < sizes queue) :
    (turn^[k] (queue, met)).1 ≠ [] := by
  induction k generalizing queue met with
  | zero =>
    rintro rfl
    exact absurd h (Nat.not_lt_zero 0)
  | succ k ih =>
    cases queue with
    | nil => exact absurd h (Nat.not_lt_zero _)
    | cons n rest =>
      rw [sizes_turn] at h
      exact ih (Nat.lt_of_succ_lt_succ h)

def level (n : Node) : Nat → List Node
  | 0 => [n]
  | k + 1 => n.children.flatMap (·.level k)

mutual

def height : Node → Nat
  | ⟨_, _, _, _, children⟩ => heights children + 1

def heights : List Node → Nat
  | [] => 0
  | n :: rest => max n.height (heights rest)

end

theorem height_eq (n : Node) : n.height = heights n.children + 1 := by
  cases n
  rw [height]

theorem heights_le_iff {l : List Node} {k : Nat} : heights l ≤ k ↔ ∀ n ∈ l, n.height ≤ k := by
  induction l with
  | nil => simp [heights]
  | cons n rest ih => simp [heights, ih]

theorem level_succ (n : Node) (k : Nat) : n.level (k + 1) = (n.level k).flatMap (·.children) := by
  induction k generalizing n with
  | zero => simp [level]
  | succ k ih =>
    rw [level, level, List.flatMap_assoc]
    exact congrArg n.children.flatMap (funext ih)

theorem level_eq_nil_iff {n : Node} {k : Nat} : n.level k = [] ↔ n.height ≤ k := by
  induction k generalizing n with
  | zero => simp [level, height_eq]
  | succ k ih =>
    rw [level, List.flatMap_eq_nil_iff, height_eq, Nat.add_le_add_iff_right, heights_le_iff]
    exact forall₂_congr fun c _ => ih

/-- What stands at the front of the queue is met before all that is added, whatever stands behind. -/
theorem traverse_append (l k : List Node) :
    traverse (l ++ k) = l ++ traverse (k ++ l.flatMap (·.children)) := by
  -- `k` grows by the children of each node of `l` that has been met.
  induction l generalizing k with
  | nil => simp
  | cons n l ih =>
    rw [List.cons_append, traverse, List.append_assoc, ih, List.append_assoc, List.flatMap_cons,
      List.cons_append]

theorem traverse_level (n : Node) (k : Nat) :
    traverse (n.level k) = n.level k ++ traverse (n.level (k + 1)) := by
  have h := traverse_append (n.level k) []
  rwa [List.append_nil, List.nil_append, ← level_succ] at h

theorem breadthFirst_eq_append (n : Node) (k : Nat) :
    n.breadthFirst = (List.range k).flatMap n.level ++ traverse (n.level k) := by
  induction k with
  | zero => simp [breadthFirst, level]
  | succ k ih =>
    rw [ih, traverse_level, List.range_succ, List.flatMap_append, List.flatMap_singleton,
      List.append_assoc]

theorem breadthFirst_eq_levels (n : Node) : n.breadthFirst = (List.range n.height).flatMap n.level := by
  rw [breadthFirst_eq_append n n.height, level_eq_nil_iff.2 (Nat.le_refl _), traverse, List.append_nil]

abbrev Position := List Nat

/-- One position is nearer to the root than the other or, at the same depth, further to the left. -/
def Before (p q : Position) : Prop := List.Shortlex (· < ·) p q

instance : Std.Asymm Before := inferInstanceAs (Std.Asymm (List.Shortlex _))

def at? : Node → Position → Option Node
  | n, [] => some n
  | n, i :: p => n.children[i]?.bind (·.at? p)

theorem at?_concat (n : Node) (p : Position) (i : Nat) :
    n.at? (p ++ [i]) = (n.at? p).bind (·.children[i]?) := by
  induction p generalizing n with
  | nil => simp [at?]
  | cons j p ih =>
    rw [List.cons_append, at?, at?, Option.bind_assoc]
    exact congrArg _ (funext ih)

variable (root : Node)

def positionsBelow (p : Position) : List Position :=
  (root.at? p).elim [] fun n => (List.range n.children.length).map fun i => p ++ [i]

def positionsAt : Nat → List Position
  | 0 => [[]]
  | k + 1 => (positionsAt k).flatMap root.positionsBelow

def positions : List Position := (List.range root.height).flatMap root.positionsAt

variable {root}

theorem mem_positionsBelow {p q : Position} :
    q ∈ root.positionsBelow p ↔ ∃ i, q = p ++ [i] ∧ (root.at? q).isSome := by
  rw [positionsBelow]
  cases hp : root.at? p with
  | none =>
    simp only [Option.elim_none, List.not_mem_nil, false_iff, not_exists, not_and]
    rintro i rfl
    simp [at?_concat, hp]
  | some n =>
    simp only [Option.elim_some, List.mem_map, List.mem_range]
    constructor
    · rintro ⟨i, hi, rfl⟩
      exact ⟨i, rfl, by simp [at?_concat, hp, hi]⟩
    · rintro ⟨i, rfl, hsome⟩
      exact ⟨i, by simpa [at?_concat, hp] using hsome, rfl⟩

theorem mem_positionsAt {k : Nat} {p : Position} :
    p ∈ root.positionsAt k ↔ p.length = k ∧ (root.at? p).isSome := by
  induction k generalizing p with
  | zero =>
    rw [positionsAt, List.mem_singleton, List.length_eq_zero_iff]
    constructor
    · rintro rfl
      exact ⟨rfl, rfl⟩
    · exact And.left
  | succ k ih =>
    simp only [positionsAt, List.mem_flatMap, mem_positionsBelow, ih]
    constructor
    · rintro ⟨q, ⟨rfl, -⟩, i, rfl, hsome⟩
      exact ⟨by simp, hsome⟩
    · rintro ⟨hlength, hsome⟩
      obtain rfl | ⟨q, i, rfl⟩ := List.eq_nil_or_concat p
      · simp at hlength
      · rw [List.concat_eq_append] at hlength hsome
        have habove : (root.at? q).isSome := by
          rw [at?_concat] at hsome
          exact Option.isSome_of_isSome_bind hsome
        exact ⟨q, ⟨by simpa using hlength, habove⟩, i, by simp, by simpa using hsome⟩

theorem pairwise_positionsAt (k : Nat) : (root.positionsAt k).Pairwise (List.Lex (· < ·)) := by
  induction k with
  | zero => exact List.pairwise_singleton _ _
  | succ k ih =>
    rw [positionsAt, List.pairwise_flatMap]
    constructor
    · intro p _
      rw [positionsBelow]
      cases root.at? p with
      | none => exact .nil
      | some n =>
        rw [Option.elim_some, List.pairwise_map]
        exact List.pairwise_lt_range.imp fun hij => List.Lex.append_left _ (.rel hij) p
    · refine ih.imp_of_mem fun {p q} hp hq hpq x hx y hy => ?_
      obtain ⟨i, rfl, -⟩ := mem_positionsBelow.1 hx
      obtain ⟨j, rfl, -⟩ := mem_positionsBelow.1 hy
      exact lex_append hpq ((mem_positionsAt.1 hp).1.trans (mem_positionsAt.1 hq).1.symm) _ _

theorem map_at?_positionsBelow (p : Position) :
    (root.positionsBelow p).map root.at? = (root.at? p).elim [] fun n => n.children.map some := by
  rw [positionsBelow]
  cases hp : root.at? p with
  | none => rfl
  | some n =>
    simp only [Option.elim_some, List.map_map, ← map_getElem?_range]
    exact List.map_congr_left fun i _ => by simp [at?_concat, hp]

theorem map_at?_positionsAt (k : Nat) : (root.positionsAt k).map root.at? = (root.level k).map some := by
  induction k with
  | zero => rfl
  | succ k ih =>
    calc (root.positionsAt (k + 1)).map root.at?
        = ((root.positionsAt k).map root.at?).flatMap (Option.elim · [] (·.children.map some)) := by
          simp only [positionsAt, List.map_flatMap, map_at?_positionsBelow, List.flatMap_map]
      _ = (root.level (k + 1)).map some := by
          simp only [ih, List.flatMap_map, Option.elim_some, level_succ, List.map_flatMap]

theorem positionsAt_eq_nil_iff {k : Nat} : root.positionsAt k = [] ↔ root.height ≤ k := by
  rw [← level_eq_nil_iff, ← List.map_eq_nil_iff, map_at?_positionsAt, List.map_eq_nil_iff]

theorem map_at?_positions : root.positions.map root.at? = root.breadthFirst.map some := by
  simp only [positions, breadthFirst_eq_levels, List.map_flatMap, map_at?_positionsAt]

theorem mem_positions {p : Position} : p ∈ root.positions ↔ (root.at? p).isSome := by
  simp only [positions, List.mem_flatMap, List.mem_range, mem_positionsAt]
  constructor
  · rintro ⟨k, -, -, hsome⟩
    exact hsome
  · intro hsome
    refine ⟨p.length, ?_, rfl, hsome⟩
    rw [← Nat.not_le, ← positionsAt_eq_nil_iff]
    exact List.ne_nil_of_mem (mem_positionsAt.2 ⟨rfl, hsome⟩)

theorem pairwise_positions : root.positions.Pairwise Before := by
  rw [positions, List.pairwise_flatMap]
  constructor
  · intro k _
    refine (pairwise_positionsAt k).imp_of_mem fun hp hq hpq => ?_
    exact .of_lex ((mem_positionsAt.1 hp).1.trans (mem_positionsAt.1 hq).1.symm) hpq
  · refine List.pairwise_lt_range.imp fun hjk p hp q hq => .of_length_lt ?_
    rwa [(mem_positionsAt.1 hp).1, (mem_positionsAt.1 hq).1]

theorem positions_eq : root.positions = [] :: root.positions.flatMap root.positionsBelow := by
  have hlast : root.positionsAt root.height = [] := positionsAt_eq_nil_iff.2 (Nat.le_refl _)
  calc root.positions
      = (List.range (root.height + 1)).flatMap root.positionsAt := by
        rw [List.range_succ, List.flatMap_append, List.flatMap_singleton, hlast, List.append_nil, positions]
    _ = [] :: root.positions.flatMap root.positionsBelow := by
        rw [List.range_succ_eq_map, List.flatMap_cons, List.flatMap_map, positions, List.flatMap_assoc]
        rfl

variable (root) in
def functionAt? (p : Position) : Option Function :=
  ((root.at? p).filter (·.kind == .functionDefinition)).map
    (⟨·, if p.isEmpty then none else root.at? p.dropLast⟩)

theorem functionAt?_concat {p : Position} {n : Node} (hp : root.at? p = some n) (i : Nat) :
    root.functionAt? (p ++ [i]) =
      (n.children[i]?.filter (·.kind == .functionDefinition)).map (⟨·, some n⟩) := by
  simp [functionAt?, at?_concat, hp]

theorem filterMap_functionAt?_below (p : Position) :
    (root.positionsBelow p).filterMap root.functionAt? = (root.at? p).elim [] childFunctions := by
  rw [positionsBelow]
  cases hp : root.at? p with
  | none => rfl
  | some n =>
    calc ((List.range n.children.length).map fun i => p ++ [i]).filterMap root.functionAt?
        = ((List.range n.children.length).map (n.children[·]?)).filterMap fun child =>
            (child.filter (·.kind == .functionDefinition)).map (⟨·, some n⟩) := by
          simp only [List.filterMap_map, Function.comp_def, functionAt?_concat hp]
      _ = childFunctions n := by
          rw [map_getElem?_range, List.filterMap_map, childFunctions, ← List.filterMap_eq_filter,
            List.map_filterMap]
          rfl

theorem filterMap_functionAt?_root (root : Node) :
    ([[]] : List Position).filterMap root.functionAt? =
      if root.kind == .functionDefinition then [⟨root, none⟩] else [] := by
  by_cases hkind : root.kind = .functionDefinition
  · simp [functionAt?, at?, hkind]
  · simp [functionAt?, at?, hkind]

theorem functions_eq (root : Node) : root.functions = root.positions.filterMap root.functionAt? := by
  have hbelow : root.breadthFirst.flatMap childFunctions =
      (root.positions.flatMap root.positionsBelow).filterMap root.functionAt? := by
    calc root.breadthFirst.flatMap childFunctions
        = (root.breadthFirst.map some).flatMap (Option.elim · [] childFunctions) := by
          simp only [List.flatMap_map, Option.elim_some]
      _ = (root.positions.flatMap root.positionsBelow).filterMap root.functionAt? := by
          simp only [← map_at?_positions, List.flatMap_map, List.filterMap_flatMap,
            filterMap_functionAt?_below]
  calc root.functions
      = ([[]] ++ root.positions.flatMap root.positionsBelow).filterMap root.functionAt? := by
        rw [functions, hbelow, List.filterMap_append, filterMap_functionAt?_root]
    _ = root.positions.filterMap root.functionAt? := by
        rw [List.singleton_append, ← positions_eq]

structure DefinesFirst (root : Node) (name : String) (p : Position) (f : Function) : Prop where
  defined : root.functionAt? p = some f
  name_eq : f.name = name
  first : ∀ q g, root.functionAt? q = some g → g.name = name → q ≠ p → Before p q

theorem mem_positions_of_functionAt? {p : Position} {f : Function} (h : root.functionAt? p = some f) :
    p ∈ root.positions := by
  rw [mem_positions, Option.isSome_iff_exists]
  obtain ⟨n, hn, -⟩ := Option.map_eq_some_iff.1 h
  exact ⟨n, (Option.filter_eq_some_iff.1 hn).1⟩

theorem findFunction?_eq_some_iff {name : String} {f : Function} :
    root.findFunction? name = some f ↔ ∃ p, root.DefinesFirst name p f := by
  rw [findFunction?, functions_eq, List.find?_filterMap, Option.bind_eq_some_iff]
  refine exists_congr fun p => ?_
  rw [find?_eq_some_iff_first pairwise_positions]
  simp only [Option.any_eq_true, beq_iff_eq]
  constructor
  · rintro ⟨⟨-, ⟨g, hg, hname⟩, hfirst⟩, hf⟩
    obtain rfl := Option.some.inj (hg.symm.trans hf)
    exact ⟨hf, hname, fun q g hq hname' => hfirst q (mem_positions_of_functionAt? hq) ⟨g, hq, hname'⟩⟩
  · rintro ⟨hf, hname, hfirst⟩
    refine ⟨⟨mem_positions_of_functionAt? hf, ⟨f, hf, hname⟩, ?_⟩, hf⟩
    rintro q - ⟨g, hq, hname'⟩
    exact hfirst q g hq hname'

theorem findFunction?_eq_none_iff {name : String} :
    root.findFunction? name = none ↔ ∀ p f, root.functionAt? p = some f → f.name ≠ name := by
  rw [findFunction?, functions_eq, List.find?_eq_none]
  simp only [List.mem_filterMap, beq_iff_eq]
  constructor
  · intro h p f hf
    exact h f ⟨p, mem_positions_of_functionAt? hf, hf⟩
  · rintro h f ⟨p, -, hf⟩
    exact h p f hf

structure IsEnumeration (root : Node) (positions : List Position) : Prop where
  ordered : positions.Pairwise Before
  complete : ∀ p, p ∈ positions ↔ (root.at? p).isSome

/-- The loop over the queue ends after one turn for each node and not before. What it has met then is one
level after the other, down to the last, so that every position has its node in it once, in order; and a
search by name ends at the first position at which that name is defined, if there is one. -/
theorem breadthFirst_visits_levels (root : Node) :
    (turn^[root.size] ([root], []) = ([], root.breadthFirst) ∧
        ∀ k < root.size, (turn^[k] ([root], [])).1 ≠ []) ∧
      (root.breadthFirst = (List.range root.height).flatMap root.level ∧
        ∀ k, root.level k = [] ↔ root.height ≤ k) ∧
      (∃ positions, root.IsEnumeration positions ∧
        positions.map root.at? = root.breadthFirst.map some) ∧
      ∀ name, (∀ f, root.findFunction? name = some f ↔ ∃ p, root.DefinesFirst name p f) ∧
        (root.findFunction? name = none ↔ ∀ p f, root.functionAt? p = some f → f.name ≠ name) := by
  have hsize : sizes [root] = root.size := by simp [sizes]
  refine ⟨⟨?_, ?_⟩, ⟨?_, ?_⟩, ?_, fun name => ⟨?_, ?_⟩⟩
  · rw [← hsize, iterate_turn, List.nil_append, breadthFirst]
  · intro k hk
    exact iterate_turn_ne_nil (hsize ▸ hk)
  · exact root.breadthFirst_eq_levels
  · exact fun k => level_eq_nil_iff
  · exact ⟨root.positions, ⟨pairwise_positions, fun p => mem_positions⟩, map_at?_positions⟩
  · exact fun f => findFunction?_eq_some_iff
  · exact findFunction?_eq_none_iff

example : ((parse "class A:\n def f(): pass\ndef f(): pass\n").findFunction? "f").map (·.line) =
    some 3 := by
  decide +kernel

end Python.Node

end TestTwins
