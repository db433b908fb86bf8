import Mathlib.Algebra.BigOperators.Fin
import Mathlib.Data.List.FinRange
import Mathlib.Data.List.Perm.Basic
import Mathlib.Data.Sym.Card
import Mathlib.Tactic.Ring
import TestTwins.Cluster

namespace TestTwins

variable {α β : Type}

theorem pairsOf_map (f : α → β) (l : List α) :
    pairsOf (l.map f) = (pairsOf l).map (Prod.map f f) := by
  induction l with
  | nil => rfl
  | cons a l ih => simp [pairsOf, ih]

theorem mem_of_mem_pairsOf {a b : α} {l : List α} (h : (a, b) ∈ pairsOf l) : a ∈ l ∧ b ∈ l := by
  induction l with
  | nil => cases h
  | cons c l ih =>
    rcases List.mem_append.1 h with h | h
    · obtain ⟨d, hd, he⟩ := List.mem_map.1 h
      obtain ⟨rfl, rfl⟩ := Prod.mk.inj he
      exact ⟨List.mem_cons_self, List.mem_cons_of_mem _ hd⟩
    · exact ⟨List.mem_cons_of_mem c (ih h).1, List.mem_cons_of_mem c (ih h).2⟩

theorem nodup_pairsOf {l : List α} (h : l.Nodup) : (pairsOf l).Nodup := by
  induction l with
  | nil => exact .nil
  | cons a l ih =>
    obtain ⟨ha, hl⟩ := List.nodup_cons.1 h
    refine (hl.map (Prod.mk_right_injective a)).append (ih hl) ?_
    intro p hp hp'
    obtain ⟨b, -, rfl⟩ := List.mem_map.1 hp
    exact ha (mem_of_mem_pairsOf hp').1

theorem pairsOf_perm {f : α × α → β} (hf : ∀ a b, f (a, b) = f (b, a)) {l l' : List α}
    (h : l.Perm l') : ((pairsOf l).map f).Perm ((pairsOf l').map f) := by
  induction h with
  | nil => exact .refl _
  | cons a hl ih =>
    simp only [pairsOf, List.map_append, List.map_map]
    exact (hl.map _).append ih
  | swap a b l =>
    simp only [pairsOf, List.map_cons, List.map_append, List.cons_append, List.map_map, hf b a]
    refine .cons _ ?_
    rw [← List.append_assoc, ← List.append_assoc]
    exact List.perm_append_comm.append_right _
  | trans _ _ ih ih' => exact ih.trans ih'

theorem length_pairsOf (l : List α) :
    ((pairsOf l).length : ℚ) = l.length * (l.length - 1) / 2 := by
  induction l with
  | nil => simp [pairsOf]
  | cons a l ih =>
    rw [pairsOf, List.length_append, List.length_map, List.length_cons]
    push_cast
    rw [ih]
    ring

section Positions

variable [LinearOrder α] {l : List α}

theorem mem_pairsOf_iff (h : l.Pairwise (· < ·)) {a b : α} :
    (a, b) ∈ pairsOf l ↔ a ∈ l ∧ b ∈ l ∧ a < b := by
  induction l with
  | nil => simp [pairsOf]
  | cons c l ih =>
    obtain ⟨hc, hl⟩ := List.pairwise_cons.1 h
    rw [pairsOf, List.mem_append, ih hl]
    constructor
    · rintro (hfirst | ⟨ha, hb, hab⟩)
      · obtain ⟨d, hd, he⟩ := List.mem_map.1 hfirst
        obtain ⟨rfl, rfl⟩ := Prod.mk.inj he
        exact ⟨List.mem_cons_self, List.mem_cons_of_mem _ hd, hc d hd⟩
      · exact ⟨List.mem_cons_of_mem c ha, List.mem_cons_of_mem c hb, hab⟩
    · rintro ⟨ha, hb, hab⟩
      rcases List.mem_cons.1 ha with rfl | hal
      · rcases List.mem_cons.1 hb with rfl | hbl
        · exact absurd hab (lt_irrefl _)
        · exact .inl (List.mem_map_of_mem hbl)
      · rcases List.mem_cons.1 hb with rfl | hbl
        · exact absurd hab (lt_asymm (hc a hal))
        · exact .inr ⟨hal, hbl, hab⟩

end Positions

def positionPairs (n : Nat) : Finset (Sym2 (Fin n)) := Finset.univ.filter fun e => ¬ e.IsDiag

@[simp] theorem mem_positionPairs {n : Nat} {e : Sym2 (Fin n)} : e ∈ positionPairs n ↔ ¬ e.IsDiag := by
  simp [positionPairs]

theorem sum_pairsOf {n : Nat} (f : Sym2 (Fin n) → ℚ) :
    ((pairsOf (List.finRange n)).map fun p => f s(p.1, p.2)).sum = ∑ e ∈ positionPairs n, f e := by
  have hsorted := List.pairwise_lt_finRange n
  have hnodup : ((pairsOf (List.finRange n)).map fun p => s(p.1, p.2)).Nodup := by
    refine (nodup_pairsOf (List.nodup_finRange n)).map_on ?_
    rintro ⟨i, j⟩ hij ⟨k, l⟩ hkl he
    have hlt := ((mem_pairsOf_iff hsorted).1 hij).2.2
    have hlt' := ((mem_pairsOf_iff hsorted).1 hkl).2.2
    rcases Sym2.eq_iff.1 he with ⟨rfl, rfl⟩ | ⟨rfl, rfl⟩
    · rfl
    · exact absurd hlt (lt_asymm hlt')
  have hall : ((pairsOf (List.finRange n)).map fun p => s(p.1, p.2)).toFinset = positionPairs n := by
    ext e
    induction e using Sym2.ind with
    | _ i j =>
      simp only [List.mem_toFinset, List.mem_map, Prod.exists, mem_pairsOf_iff hsorted,
        List.mem_finRange, true_and, mem_positionPairs, Sym2.mk_isDiag_iff]
      constructor
      · rintro ⟨k, l, hkl, he⟩ rfl
        rcases Sym2.eq_iff.1 he with ⟨rfl, rfl⟩ | ⟨rfl, rfl⟩ <;> exact lt_irrefl _ hkl
      · intro hne
        rcases lt_or_gt_of_ne hne with hlt | hlt
        · exact ⟨i, j, hlt, rfl⟩
        · exact ⟨j, i, hlt, Sym2.eq_swap⟩
  rw [← hall, List.sum_toFinset f hnodup, List.map_map]
  rfl

theorem card_positionPairs (n : Nat) : ((positionPairs n).card : ℚ) = n * (n - 1) / 2 := by
  have hlength := length_pairsOf (List.finRange n)
  have hsum := sum_pairsOf (n := n) fun _ => 1
  rw [List.length_finRange] at hlength
  simpa [hlength] using hsum.symm

end TestTwins
