import Mathlib.Data.Fintype.Basic
import Mathlib.Order.WellFounded
import Mathlib.Order.Bounds.Basic

/-! Grouping by leaders. Positions are numbered, and one position may be near a later one. The first of
them is a seed; a later one is a seed if no earlier seed is near it, and joins the first seed that is near
it otherwise. Main statements: every position is in exactly one group, and two positions that the same
positions are near are in the same group if one is near the other. -/

namespace TestTwins.Leader

variable {n : Nat} (near : Fin n → Fin n → Prop)

def IsSeed (i : Fin n) : Prop := ∀ j, j < i → IsSeed j → ¬ near j i
termination_by i

/-- The first seed that stands before a position and is near it. -/
def Leads (s i : Fin n) : Prop := IsLeast {j | j < i ∧ IsSeed near j ∧ near j i} s

def InGroup (s i : Fin n) : Prop := i = s ∨ ¬ IsSeed near i ∧ Leads near s i

open Classical in
noncomputable def group (s : Fin n) : List (Fin n) :=
  (List.finRange n).filter fun i => InGroup near s i

open Classical in
noncomputable def scanned (s : Fin n) : List (Fin n) :=
  (List.finRange n).filter fun i => s < i ∧ ∀ j, j < s → IsSeed near j → ¬ near j i

variable {near}

theorem isSeed_iff {i : Fin n} : IsSeed near i ↔ ∀ j, j < i → IsSeed near j → ¬ near j i := by
  rw [IsSeed]

@[simp] theorem mem_group {s i : Fin n} : i ∈ group near s ↔ InGroup near s i := by
  simp [group]

@[simp] theorem mem_scanned {s i : Fin n} :
    i ∈ scanned near s ↔ s < i ∧ ∀ j, j < s → IsSeed near j → ¬ near j i := by
  simp [scanned]

theorem Leads.not_isSeed {s i : Fin n} (h : Leads near s i) : ¬ IsSeed near i := by
  intro hi
  obtain ⟨hlt, hs, hnear⟩ := h.1
  exact isSeed_iff.1 hi s hlt hs hnear

theorem exists_leads {i : Fin n} (h : ¬ IsSeed near i) : ∃ s, Leads near s i := by
  simp only [isSeed_iff (i := i), not_forall, not_not, exists_prop] at h
  obtain ⟨j, hj⟩ := h
  obtain ⟨s, hs, hmin⟩ := wellFounded_lt.has_min {j | j < i ∧ IsSeed near j ∧ near j i} ⟨j, hj⟩
  exact ⟨s, hs, fun k hk => not_lt.1 (hmin k hk)⟩

theorem existsUnique_group (near : Fin n → Fin n → Prop) (i : Fin n) :
    ∃! s, IsSeed near s ∧ i ∈ group near s := by
  by_cases hi : IsSeed near i
  · refine ⟨i, ⟨hi, mem_group.2 (.inl rfl)⟩, ?_⟩
    rintro s ⟨-, hs⟩
    rcases mem_group.1 hs with rfl | ⟨hnot, -⟩
    · rfl
    · exact absurd hi hnot
  · obtain ⟨s, hs⟩ := exists_leads hi
    refine ⟨s, ⟨hs.1.2.1, mem_group.2 (.inr ⟨hi, hs⟩)⟩, ?_⟩
    rintro s' ⟨hseed, hs'⟩
    rcases mem_group.1 hs' with rfl | ⟨-, hleads⟩
    · exact absurd hseed hi
    · exact hleads.unique hs

/-- Where the same earlier positions are near to two, and the first of the two is near to the second, the
same seed leads both. -/
theorem exists_group_of_twins (near : Fin n → Fin n → Prop) {a b : Fin n} (hab : a < b)
    (hnear : near a b) (htwins : ∀ j < a, near j a ↔ near j b) :
    ∃ s, IsSeed near s ∧ a ∈ group near s ∧ b ∈ group near s := by
  obtain ⟨s, ⟨hs, ha⟩, -⟩ := existsUnique_group near a
  refine ⟨s, hs, ha, mem_group.2 (.inr ?_)⟩
  suffices h : Leads near s b from ⟨h.not_isSeed, h⟩
  rcases mem_group.1 ha with rfl | ⟨-, hleads⟩
  · refine ⟨⟨hab, hs, hnear⟩, ?_⟩
    rintro j ⟨-, hj, hjb⟩
    by_contra hlt
    exact isSeed_iff.1 hs j (not_le.1 hlt) hj ((htwins j (not_le.1 hlt)).2 hjb)
  · obtain ⟨hlt, -, hsa⟩ := hleads.1
    refine ⟨⟨hlt.trans hab, hs, (htwins s hlt).1 hsa⟩, ?_⟩
    rintro j ⟨-, hj, hjb⟩
    by_contra hjs
    have hja := (not_le.1 hjs).trans hlt
    exact hjs (hleads.2 ⟨hja, hj, (htwins j hja).2 hjb⟩)

section Rounds

open Classical in
noncomputable def pending (near : Fin n → Fin n → Prop) (pre suf : List (Fin n)) : List (Fin n) :=
  suf.filter fun i => ∀ j ∈ pre, IsSeed near j → ¬ near j i

variable {pre suf : List (Fin n)} {b : Fin n}

theorem mem_before_iff (h : List.finRange n = pre ++ b :: suf) {j : Fin n} : j ∈ pre ↔ j < b := by
  have hsorted := List.pairwise_lt_finRange n
  rw [h, List.pairwise_append, List.pairwise_cons] at hsorted
  obtain ⟨-, ⟨hafter, -⟩, hbefore⟩ := hsorted
  constructor
  · intro hj
    exact hbefore j hj b List.mem_cons_self
  · intro hj
    have hmem : j ∈ pre ++ b :: suf := h ▸ List.mem_finRange j
    rcases List.mem_append.1 hmem with hpre | hsuf
    · exact hpre
    · rcases List.mem_cons.1 hsuf with rfl | hsuf
      · exact absurd hj (lt_irrefl _)
      · exact absurd hj (lt_asymm (hafter j hsuf))

theorem lt_of_mem_after (h : List.finRange n = pre ++ b :: suf) {j : Fin n} (hj : j ∈ suf) : b < j := by
  have hsorted := List.pairwise_lt_finRange n
  rw [h, List.pairwise_append, List.pairwise_cons] at hsorted
  exact hsorted.2.1.1 j hj

theorem isSeed_iff_free (h : List.finRange n = pre ++ b :: suf) :
    IsSeed near b ↔ ∀ j ∈ pre, IsSeed near j → ¬ near j b := by
  rw [isSeed_iff]
  simp only [mem_before_iff h]

theorem pending_cons_of_isSeed (h : List.finRange n = pre ++ b :: suf) (hb : IsSeed near b) :
    pending near pre (b :: suf) = b :: pending near pre suf :=
  List.filter_cons_of_pos (by simpa using (isSeed_iff_free h).1 hb)

theorem pending_cons_of_not_isSeed (h : List.finRange n = pre ++ b :: suf) (hb : ¬ IsSeed near b) :
    pending near pre (b :: suf) = pending near (pre ++ [b]) suf := by
  rw [pending, List.filter_cons_of_neg (by simpa using mt (isSeed_iff_free h).2 hb), pending]
  apply List.filter_congr
  intro i _
  simp [or_imp, forall_and, hb]

theorem pending_after_isSeed [DecidablePred (near b)] (pre suf : List (Fin n)) (hb : IsSeed near b) :
    pending near (pre ++ [b]) suf = (pending near pre suf).filter fun i => ¬ near b i := by
  simp only [pending, List.filter_filter]
  apply List.filter_congr
  intro i _
  rw [Bool.eq_iff_iff]
  simp [or_imp, forall_and, hb, and_comm]

theorem group_eq_cons [DecidablePred (near b)] (h : List.finRange n = pre ++ b :: suf)
    (hb : IsSeed near b) : group near b = b :: (pending near pre suf).filter fun i => near b i := by
  have hpre : ∀ i ∈ pre, ¬ InGroup near b i := by
    rintro i hi (rfl | ⟨-, hleads⟩)
    · exact lt_irrefl _ ((mem_before_iff h).1 hi)
    · exact lt_asymm ((mem_before_iff h).1 hi) hleads.1.1
  have hsuf : ∀ i ∈ suf, InGroup near b i ↔ near b i ∧ ∀ j ∈ pre, IsSeed near j → ¬ near j i := by
    intro i hi
    have hbi := lt_of_mem_after h hi
    constructor
    · rintro (rfl | ⟨-, ⟨-, -, hnear⟩, hleast⟩)
      · exact absurd hbi (lt_irrefl _)
      · refine ⟨hnear, fun j hj hseed hji => ?_⟩
        have hjb := (mem_before_iff h).1 hj
        exact absurd (hleast ⟨hjb.trans hbi, hseed, hji⟩) (not_le.2 hjb)
    · rintro ⟨hnear, hfree⟩
      suffices hleads : Leads near b i from .inr ⟨hleads.not_isSeed, hleads⟩
      refine ⟨⟨hbi, hb, hnear⟩, ?_⟩
      rintro j ⟨-, hseed, hji⟩
      by_contra hjb
      exact hfree j ((mem_before_iff h).2 (not_le.1 hjb)) hseed hji
  have hself : InGroup near b b := .inl rfl
  rw [group, h, List.filter_append, List.filter_eq_nil_iff.2 (by simpa using hpre), List.nil_append,
    List.filter_cons_of_pos (by simpa using hself), pending, List.filter_filter]
  congr 1
  apply List.filter_congr
  intro i hi
  rw [Bool.eq_iff_iff]
  simpa using hsuf i hi

theorem pending_eq_scanned (h : List.finRange n = pre ++ b :: suf) :
    pending near pre suf = scanned near b := by
  have hpre : ∀ i ∈ pre, ¬ (b < i ∧ ∀ j, j < b → IsSeed near j → ¬ near j i) :=
    fun i hi hscanned => lt_asymm ((mem_before_iff h).1 hi) hscanned.1
  rw [scanned, h, List.filter_append, List.filter_eq_nil_iff.2 (by simpa using hpre), List.nil_append,
    List.filter_cons_of_neg (by simp), pending]
  apply List.filter_congr
  intro i hi
  rw [Bool.eq_iff_iff]
  simp [lt_of_mem_after h hi, mem_before_iff h]

variable (near) in
/-- Induction along a run: what is free when a position comes up is the list of free positions from
there on. A seed is compared with all that is free after it and takes what it is near to. -/
theorem seeds_induction [DecidableRel near] {motive : List (Fin n) → List (Fin n) → Prop}
    (nil : motive [] [])
    (seed : ∀ b suf, IsSeed near b → group near b = b :: (scanned near b).filter (near b ·) →
      motive ((scanned near b).filter (¬ near b ·)) suf → motive (b :: scanned near b) (b :: suf))
    (other : ∀ b suf free, ¬ IsSeed near b → motive free suf → motive free (b :: suf)) :
    motive (List.finRange n) (List.finRange n) := by
  suffices h : ∀ suf pre, List.finRange n = pre ++ suf → motive (pending near pre suf) suf by
    have hall : pending near [] (List.finRange n) = List.finRange n := by simp [pending]
    simpa only [hall] using h (List.finRange n) [] rfl
  intro suf
  induction suf with
  | nil => exact fun _ _ => nil
  | cons b suf ih =>
    intro pre h
    have hrest := ih (pre ++ [b]) (by simpa using h)
    by_cases hb : IsSeed near b
    · rw [pending_after_isSeed pre suf hb, pending_eq_scanned h] at hrest
      rw [pending_cons_of_isSeed h hb, pending_eq_scanned h]
      exact seed b suf hb (by rw [group_eq_cons h hb, pending_eq_scanned h]) hrest
    · rw [pending_cons_of_not_isSeed h hb]
      exact other b suf _ hb hrest

end Rounds

end TestTwins.Leader
