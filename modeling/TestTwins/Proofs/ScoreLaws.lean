import TestTwins.Proofs.RatioLaws
import TestTwins.Similarity.Engine

namespace TestTwins

section

variable {α : Type} [LT α]

theorem length_insertAscending_le [DecidableLT α] (a : α) (xs : List α) :
    (insertAscending a xs).length ≤ xs.length + 1 := by
  induction xs with
  | nil => exact Nat.le_refl 1
  | cons b rest ih =>
    simp only [insertAscending]
    split
    · exact Nat.le_refl _
    · split
      · exact Nat.succ_le_succ ih
      · exact Nat.le_succ _

namespace OrderedSet

@[simp] theorem mem_filter {p : α → Bool} {s : OrderedSet α} {a : α} :
    a ∈ s.filter p ↔ a ∈ s ∧ p a = true :=
  List.mem_filter

@[simp] theorem mem_inter [DecidableEq α] {s t : OrderedSet α} {a : α} :
    a ∈ s.inter t ↔ a ∈ s ∧ a ∈ t := by
  simp [inter]

end OrderedSet

end

theorem length_eq_iff_nodup {α : Type} [DecidableEq α] {xs ys : List α} (hxs : xs.Nodup)
    (h : ∀ a, a ∈ xs ↔ a ∈ ys) : xs.length = ys.length ↔ ys.Nodup := by
  have hperm : xs.Perm ys.dedup := by
    apply (List.perm_ext_iff_of_nodup hxs ys.nodup_dedup).2
    intro a
    rw [List.mem_dedup, h]
  rw [hperm.length_eq, ← List.dedup_eq_self]
  exact ⟨ys.dedup_sublist.eq_of_length, congrArg List.length⟩

namespace OrderedSet

variable {α : Type} [LE α] [LT α] [Std.LawfulOrderLT α]

theorem nodup_toList (s : OrderedSet α) : s.toList.Nodup := by
  refine s.ascending.imp ?_
  intro a b hab he
  exact Std.lt_irrefl (he ▸ hab)

theorem size_le_of_subset {s t : OrderedSet α} (h : ∀ a, a ∈ s → a ∈ t) : s.size ≤ t.size :=
  (s.nodup_toList.subperm fun a ha => h a ha).length_le

variable [Std.IsLinearOrder α]

theorem ext_mem {s t : OrderedSet α} (h : ∀ a, a ∈ s ↔ a ∈ t) : s = t := by
  apply ext
  refine List.Perm.eq_of_pairwise ?_ s.ascending t.ascending
    ((List.perm_ext_iff_of_nodup s.nodup_toList t.nodup_toList).2 h)
  intro a b _ _ hab hba
  exact absurd (Std.lt_trans hab hba) Std.lt_irrefl

theorem inter_comm [DecidableEq α] (s t : OrderedSet α) : s.inter t = t.inter s := by
  apply ext_mem
  intro a
  rw [mem_inter, mem_inter, and_comm]

@[simp] theorem inter_self [DecidableEq α] (s : OrderedSet α) : s.inter s = s := by
  apply ext_mem
  simp

variable [DecidableLT α]

@[simp] theorem mem_union {s t : OrderedSet α} {a : α} : a ∈ s.union t ↔ a ∈ s ∨ a ∈ t := by
  rw [union, mem_ofList]
  exact List.mem_append

theorem union_comm (s t : OrderedSet α) : s.union t = t.union s := by
  apply ext_mem
  intro a
  rw [mem_union, mem_union, or_comm]

@[simp] theorem union_self (s : OrderedSet α) : s.union s = s := by
  apply ext_mem
  simp

theorem size_ofList_le (xs : List α) : (ofList xs).size ≤ xs.length := by
  induction xs with
  | nil => exact Nat.le_refl 0
  | cons a rest ih => exact (length_insertAscending_le a _).trans (Nat.succ_le_succ ih)

end OrderedSet

theorem length_pieces_le (c : Char) (s : List Char) :
    ((splitOnChar c s).filter (!·.isEmpty)).length ≤ s.length := by
  induction s with
  | nil => exact Nat.le_refl 0
  | cons d rest ih =>
    simp only [splitOnChar]
    split
    · simp
    · rename_i piece pieces hpieces
      rw [hpieces] at ih
      split
      · exact ih.trans (Nat.le_succ _)
      · have hfewer : (pieces.filter (!·.isEmpty)).length ≤
            ((piece :: pieces).filter (!·.isEmpty)).length :=
          ((List.sublist_cons_self piece pieces).filter _).length_le
        simpa using hfewer.trans ih

theorem size_tokenSet_le (s : String) : (tokenSet s).size ≤ s.length := by
  calc
    (tokenSet s).size ≤ (tokens s).length := OrderedSet.size_ofList_le _
    _ ≤ s.length := by
      rw [tokens, List.length_map]
      exact length_pieces_le '|' s.toList

theorem size_shapeSet_le (s : String) : (shapeSet s).size ≤ s.length :=
  (List.length_filter_le _ _).trans (size_tokenSet_le s)

variable {K : Type} [Scalar K]

section

variable {α : Type} [LE α] [LT α] [DecidableLT α] [Std.IsLinearOrder α] [Std.LawfulOrderLT α]
  [DecidableEq α]

omit [DecidableEq α] in
theorem jointCount_pos {a b : OrderedSet α} (ha : ¬ a.isEmpty) : 0 < jointCount a b := by
  have hsize : 0 < a.size := List.length_pos_iff.2 (mt List.isEmpty_iff.2 ha)
  exact hsize.trans_le (OrderedSet.size_le_of_subset fun x hx => OrderedSet.mem_union.2 (.inl hx))

theorem sharedCount_le_jointCount (a b : OrderedSet α) : sharedCount a b ≤ jointCount a b := by
  apply OrderedSet.size_le_of_subset
  intro x hx
  exact OrderedSet.mem_union.2 (.inl (OrderedSet.mem_inter.1 hx).1)

theorem jaccard_comm (a b : OrderedSet α) : (jaccard a b : K) = jaccard b a := by
  simp only [jaccard, sharedCount, jointCount, a.inter_comm b, a.union_comm b,
    Bool.and_comm a.isEmpty, Bool.or_comm a.isEmpty]

theorem jaccard_self [LawfulRatio K] {s : OrderedSet α} (h : s.size < Word.count) :
    (jaccard s s : K) = Scalar.one := by
  simp only [jaccard, sharedCount, jointCount, Bool.and_self, Bool.or_self, OrderedSet.inter_self,
    OrderedSet.union_self]
  by_cases hs : s.isEmpty
  · rw [if_pos hs]
  · have hpos : 0 < s.size := List.length_pos_iff.2 (mt List.isEmpty_iff.2 hs)
    rw [if_neg hs, if_neg hs, LawfulRatio.ratio_self _ hpos h]

end

theorem mockSimilarity_comm (a b : Nat) : (mockSimilarity a b : K) = mockSimilarity b a := by
  simp only [mockSimilarity, Nat.min_comm a, Nat.max_comm a, and_comm (a := a = 0), or_comm (a := a = 0)]

theorem mockSimilarity_self [LawfulRatio K] {n : Nat} (h : n < Word.count) :
    (mockSimilarity n n : K) = Scalar.one := by
  simp only [mockSimilarity, and_self, or_self, Nat.min_self, Nat.max_self]
  by_cases hn : n = 0
  · rw [if_pos hn]
  · rw [if_neg hn, if_neg hn, LawfulRatio.ratio_self _ (Nat.pos_of_ne_zero hn) h]

namespace Engine

theorem coverageScore_comm (e : Engine K) (a b : String) :
    e.coverageScore a b = e.coverageScore b a := by
  simp only [coverageScore]
  cases e.coverage.get? a <;> cases e.coverage.get? b <;> simp only [jaccard_comm]

theorem compute_comm (e : Engine K) (a b : String) : e.compute a b = e.compute b a := by
  simp only [compute, e.coverageScore_comm a b]
  cases e.featuresOf? a <;> cases e.featuresOf? b <;>
    simp only [tokenJaccard, shapeSimilarity, jaccard_comm, mockSimilarity_comm]

end Engine

end TestTwins
