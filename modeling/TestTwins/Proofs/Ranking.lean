import Mathlib.Algebra.Order.Ring.Rat
import TestTwins.Coverage.Fingerprint

namespace TestTwins

section Sorting

variable {α : Type} {le : α → α → Bool} (htrans : ∀ a b c, le a b → le b c → le a c)
  (htotal : ∀ a b, le a b || le b a)
include htrans htotal

theorem mergeSort_split (a : α) (l : List α) :
    (a :: l).mergeSort le =
        (l.mergeSort le).filter (fun b => !le a b) ++ a :: (l.mergeSort le).filter (le a) ∧
      l.mergeSort le = (l.mergeSort le).filter (fun b => !le a b) ++ (l.mergeSort le).filter (le a) := by
  obtain ⟨before, after, hsorted, hrest, hbefore⟩ := List.mergeSort_cons htrans htotal a l
  have hafter : ∀ b ∈ after, le a b := by
    have hpairwise := List.pairwise_mergeSort htrans htotal (a :: l)
    rw [hsorted, List.pairwise_append, List.pairwise_cons] at hpairwise
    exact hpairwise.2.1.1
  have hfirst : (l.mergeSort le).filter (fun b => !le a b) = before := by
    rw [hrest, List.filter_append, List.filter_eq_self.2 hbefore,
      List.filter_eq_nil_iff.2 (by simpa using hafter), List.append_nil]
  have hlast : (l.mergeSort le).filter (le a) = after := by
    rw [hrest, List.filter_append, List.filter_eq_self.2 hafter,
      List.filter_eq_nil_iff.2 (by simpa using hbefore), List.nil_append]
  rw [hfirst, hlast]
  exact ⟨hsorted, hrest⟩

theorem filter_mergeSort (keep : α → Bool) (l : List α) :
    (l.mergeSort le).filter keep = (l.filter keep).mergeSort le := by
  induction l with
  | nil => simp
  | cons a l ih =>
    have hcomm : ∀ p : α → Bool, ((l.mergeSort le).filter p).filter keep =
        ((l.filter keep).mergeSort le).filter p := by
      intro p
      rw [← ih, List.filter_filter, List.filter_filter]
      simp only [Bool.and_comm]
    obtain ⟨hcons, hrest⟩ := mergeSort_split htrans htotal a (l.filter keep)
    rw [(mergeSort_split htrans htotal a l).1, List.filter_append, List.filter_cons, List.filter_cons,
      hcomm, hcomm]
    split
    · exact hcons.symm
    · exact hrest.symm

end Sorting

theorem filter_isPrefix {α : Type} {keep : α → Bool} {l : List α}
    (h : l.Pairwise fun a b => keep b → keep a) : l.filter keep <+: l := by
  induction l with
  | nil => exact List.prefix_rfl
  | cons a l ih =>
    obtain ⟨ha, hl⟩ := List.pairwise_cons.1 h
    by_cases hkeep : keep a
    · rw [List.filter_cons_of_pos hkeep, List.prefix_cons_inj]
      exact ih hl
    · have hnone : l.filter keep = [] := List.filter_eq_nil_iff.2 fun b hb => mt (ha b hb) hkeep
      rw [List.filter_cons_of_neg hkeep, hnone]
      exact List.nil_prefix

/-- Numbers whose ranks agree with their sizes. Numbers that are not even as large as themselves are not
comparable with anything; their ranks say nothing. -/
class LawfulRanked (K : Type) [Scalar K] [Ranked K] : Prop where
  rank_trans : ∀ x y z : K, Ranked.notAbove x y → Ranked.notAbove y z → Ranked.notAbove x z
  rank_total : ∀ x y : K, Ranked.notAbove x y || Ranked.notAbove y x
  le_trans : ∀ x y z : K, x ≤ y → y ≤ z → x ≤ z
  le_self : ∀ x y : K, x ≤ y → y ≤ y
  le_of_rank : ∀ x y : K, x ≤ x → y ≤ y → Ranked.notAbove x y → x ≤ y

instance : LawfulRanked Rat where
  rank_trans x y z hxy hyz := decide_eq_true ((of_decide_eq_true hxy).trans (of_decide_eq_true hyz))
  rank_total x y := by simpa [Ranked.notAbove] using le_total x y
  le_trans x y z hxy hyz := Rat.le_trans hxy hyz
  le_self x y _ := le_refl y
  le_of_rank x y _ _ h := of_decide_eq_true h

section Ranks

variable {α K : Type} [Scalar K] [Ranked K]

/-- An answer to which scored items reach a threshold: they are all there, as often as they were given,
best first, and those with the same score in the order in which they were given. -/
structure Ranks [DecidableEq K] (scored : List (α × K)) (threshold : K) (found : List (α × K)) : Prop where
  perm : found.Perm (scored.filter fun item => threshold ≤ item.2)
  descending : found.Pairwise fun a b => b.2 ≤ a.2
  ties : ∀ score, found.filter (fun item => item.2 = score) =
    (scored.filter fun item => threshold ≤ item.2).filter fun item => item.2 = score

def scoreOrder (a b : α × K) : Bool := Ranked.notAbove b.2 a.2

variable [LawfulRanked K]

theorem scoreOrder_trans (a b c : α × K) (hab : scoreOrder a b) (hbc : scoreOrder b c) : scoreOrder a c :=
  LawfulRanked.rank_trans c.2 b.2 a.2 hbc hab

theorem scoreOrder_total (a b : α × K) : scoreOrder a b || scoreOrder b a :=
  LawfulRanked.rank_total b.2 a.2

theorem filter_sortByScore (keep : α × K → Bool) (items : List (α × K)) :
    (sortByScore items).filter keep = sortByScore (items.filter keep) :=
  filter_mergeSort scoreOrder_trans scoreOrder_total keep items

theorem pairwise_sortByScore (scored : List (α × K)) (threshold : K) :
    (sortByScore (scored.filter fun item => threshold ≤ item.2)).Pairwise fun a b => b.2 ≤ a.2 := by
  have hself : ∀ item ∈ sortByScore (scored.filter fun item => threshold ≤ item.2), item.2 ≤ item.2 := by
    intro item hitem
    have hreached := (List.mem_filter.1 (List.mem_mergeSort.1 hitem)).2
    exact LawfulRanked.le_self threshold item.2 (of_decide_eq_true hreached)
  refine List.Pairwise.imp_of_mem ?_ (List.pairwise_mergeSort scoreOrder_trans scoreOrder_total _)
  intro a b ha hb hab
  exact LawfulRanked.le_of_rank b.2 a.2 (hself b hb) (hself a ha) hab

theorem ranks_sortByScore [DecidableEq K] (scored : List (α × K)) (threshold : K) :
    Ranks scored threshold (sortByScore (scored.filter fun item => threshold ≤ item.2)) where
  perm := List.mergeSort_perm _ _
  descending := pairwise_sortByScore scored threshold
  ties score := by
    rw [filter_sortByScore]
    refine List.mergeSort_of_pairwise (List.pairwise_of_forall_mem_list fun a ha b hb => ?_)
    have hsame : b.2 = a.2 := by
      rw [of_decide_eq_true (List.mem_filter.1 ha).2, of_decide_eq_true (List.mem_filter.1 hb).2]
    simpa [hsame] using LawfulRanked.rank_total a.2 a.2

theorem sortByScore_isPrefix (scored : List (α × K)) {low high : K} (h : low ≤ high) :
    sortByScore (scored.filter fun item => high ≤ item.2) <+:
      sortByScore (scored.filter fun item => low ≤ item.2) := by
  have hfilter : scored.filter (fun item => high ≤ item.2) =
      (scored.filter fun item => low ≤ item.2).filter fun item => high ≤ item.2 := by
    rw [List.filter_filter]
    refine List.filter_congr fun item _ => ?_
    by_cases hitem : high ≤ item.2
    · simp [hitem, LawfulRanked.le_trans _ _ _ h hitem]
    · simp [hitem]
  rw [hfilter, ← filter_sortByScore]
  refine filter_isPrefix ((pairwise_sortByScore scored low).imp ?_)
  intro a b hba hb
  simp only [decide_eq_true_eq] at hb ⊢
  exact LawfulRanked.le_trans _ _ _ hb hba

end Ranks

end TestTwins
