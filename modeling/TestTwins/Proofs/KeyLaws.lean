import Mathlib.Data.Sym.Sym2
import TestTwins.Similarity.Engine

namespace TestTwins

theorem splitLast_eq_none {c : Char} {s : List Char} (h : c ∉ s) : splitLast c s = none := by
  induction s with
  | nil => rfl
  | cons d rest ih =>
    obtain ⟨hd, hrest⟩ : c ≠ d ∧ c ∉ rest := by simpa using h
    simp [splitLast, ih hrest, Ne.symm hd]

theorem splitLast_append {c : Char} {a b : List Char} (h : c ∉ b) :
    splitLast c (a ++ c :: b) = some (a, b) := by
  induction a with
  | nil => simp [splitLast, splitLast_eq_none h]
  | cons d rest ih => simp [splitLast, ih]

theorem eq_append_of_splitLast {c : Char} {s a b : List Char} (h : splitLast c s = some (a, b)) :
    s = a ++ c :: b := by
  induction s generalizing a with
  | nil => cases h
  | cons d rest ih =>
    simp only [splitLast] at h
    split at h
    · rename_i a' b' hrest
      cases h
      rw [ih hrest, List.cons_append]
    · split at h
      · rename_i hd
        cases h
        rw [hd, List.nil_append]
      · cases h

theorem splitDouble_append {a b : List Char} (h : ':' ∉ a) :
    splitDouble (a ++ ':' :: ':' :: b) = some (a, b) := by
  induction a with
  | nil => rfl
  | cons d rest ih =>
    obtain ⟨hd, hrest⟩ : ':' ≠ d ∧ ':' ∉ rest := by simpa using h
    rw [List.cons_append, splitDouble, ih hrest]
    · rfl
    · intro _ he _
      exact hd he.symm

namespace TestId

/-- A test whose written forms can be told apart: its name has no colon and its file no double one. -/
structure WellFormed (t : TestId) : Prop where
  name_ne : t.name ≠ ""
  name_plain : ':' ∉ t.name.toList
  file_ne : t.file ≠ ""
  file_plain : ¬ [':', ':'] <:+: t.file.toList

instance (t : TestId) : Decidable t.WellFormed :=
  decidable_of_iff
    (t.name ≠ "" ∧ ':' ∉ t.name.toList ∧ t.file ≠ "" ∧ ¬ [':', ':'] <:+: t.file.toList)
    ⟨fun ⟨a, b, c, d⟩ => ⟨a, b, c, d⟩, fun ⟨a, b, c, d⟩ => ⟨a, b, c, d⟩⟩

theorem toList_featureKey (t : TestId) :
    t.featureKey.toList = t.file.toList ++ ':' :: t.name.toList := by
  simp [featureKey]

theorem toList_similarityKey (t : TestId) :
    t.similarityKey.toList = t.name.toList ++ ':' :: ':' :: t.file.toList := by
  simp [similarityKey]

theorem ofParts?_toList {t : TestId} (hname : t.name ≠ "") (hfile : t.file ≠ "") :
    ofParts? t.name.toList t.file.toList = some t := by
  simp [ofParts?, hname, hfile]

theorem featureKey_of_ofFeatureKey? {key : String} {t : TestId} (h : ofFeatureKey? key = some t) :
    t.featureKey = key := by
  obtain ⟨⟨file, name⟩, hsplit, hparts⟩ := Option.bind_eq_some_iff.1 h
  simp only [ofParts?] at hparts
  split at hparts
  · cases hparts
  · cases hparts
    apply String.ext
    rw [toList_featureKey, eq_append_of_splitLast hsplit, String.toList_ofList, String.toList_ofList]

theorem ofFeatureKey?_featureKey {t : TestId} (hname : t.name ≠ "") (hplain : ':' ∉ t.name.toList)
    (hfile : t.file ≠ "") : ofFeatureKey? t.featureKey = some t := by
  rw [ofFeatureKey?, toList_featureKey, splitLast_append hplain]
  exact ofParts?_toList hname hfile

theorem ofSimilarityKey?_similarityKey {t : TestId} (hname : t.name ≠ "")
    (hplain : ':' ∉ t.name.toList) (hfile : t.file ≠ "") :
    ofSimilarityKey? t.similarityKey = some t := by
  rw [ofSimilarityKey?, toList_similarityKey, splitDouble_append hplain]
  exact ofParts?_toList hname hfile

theorem WellFormed.ofFeatureKey? {t : TestId} (h : t.WellFormed) :
    ofFeatureKey? t.featureKey = some t :=
  ofFeatureKey?_featureKey h.name_ne h.name_plain h.file_ne

theorem WellFormed.ofSimilarityKey? {t : TestId} (h : t.WellFormed) :
    ofSimilarityKey? t.similarityKey = some t :=
  ofSimilarityKey?_similarityKey h.name_ne h.name_plain h.file_ne

theorem WellFormed.toFeatureKey? {t : TestId} (h : t.WellFormed) :
    toFeatureKey? t.similarityKey = some t.featureKey := by
  rw [TestTwins.toFeatureKey?, h.ofSimilarityKey?, Option.map_some]

end TestId

def IsTestKey (key : String) : Prop := ∃ t : TestId, t.WellFormed ∧ t.similarityKey = key

theorem cut_at_colon {a b c d : List Char} (ha : ':' ∉ a) (hc : ':' ∉ c)
    (h : a ++ ':' :: b = c ++ ':' :: d) : a = c ∧ b = d := by
  induction a generalizing c with
  | nil =>
    cases c with
    | nil => simpa using h
    | cons y c =>
      obtain ⟨hy, -⟩ := List.cons.inj h
      exact absurd (hy ▸ List.mem_cons_self) hc
  | cons x a ih =>
    cases c with
    | nil =>
      obtain ⟨hx, -⟩ := List.cons.inj h
      exact absurd (hx ▸ List.mem_cons_self) ha
    | cons y c =>
      obtain ⟨hxy, hrest⟩ := List.cons.inj h
      obtain ⟨hac, hbd⟩ := ih (fun hm => ha (.tail _ hm)) (fun hm => hc (.tail _ hm)) hrest
      exact ⟨by rw [hxy, hac], hbd⟩

theorem ne_colon_cons {t r s : List Char} (ht : ':' ∉ t) (hne : t ≠ []) : t ++ r ≠ ':' :: s := by
  intro h
  cases t with
  | nil => exact hne rfl
  | cons x t =>
    obtain ⟨hx, -⟩ := List.cons.inj h
    exact ht (hx ▸ List.mem_cons_self)

theorem double_mem_append (a b : List Char) : [':', ':'] <:+: a ++ ':' :: ':' :: b :=
  ⟨a, b, by simp⟩

/-- Where the text of a pair is cut in two ways, the later cut is not inside the second key: the
colons there belong to its double colon. -/
theorem no_later_cut {f t g f' t' g' m : List Char} (ht : ':' ∉ t) (hg : ¬ [':', ':'] <:+: g)
    (hf' : ¬ [':', ':'] <:+: f') (ht' : ':' ∉ t') (hne : t' ≠ []) (hm : f' = f ++ m)
    (h : ':' :: (t ++ ':' :: ':' :: g) = m ++ ':' :: (t' ++ ':' :: ':' :: g')) : m = [] := by
  cases m with
  | nil => rfl
  | cons x m =>
    exfalso
    obtain ⟨hx, htail⟩ := List.cons.inj h
    rcases List.append_eq_append_iff.1 htail with ⟨k, hk, hcut⟩ | ⟨k, hk, hcut⟩
    · -- `m` goes on after `t`, so it takes in none, one or both of the two colons.
      match k with
      | [] => exact ne_colon_cons ht' hne (List.cons.inj hcut).2.symm
      | [_] =>
        have hrest := (List.cons.inj (List.cons.inj hcut).2).2
        exact hg (hrest ▸ double_mem_append t' g')
      | y :: z :: k =>
        obtain ⟨hy, hrest⟩ := List.cons.inj hcut
        obtain ⟨hz, -⟩ := List.cons.inj hrest
        apply hf'
        rw [hm, hk, ← hy, ← hz]
        simpa using double_mem_append (f ++ x :: t) k
    · cases k with
      | nil => exact ne_colon_cons ht' hne (List.cons.inj hcut).2
      | cons y k =>
        obtain ⟨rfl, -⟩ := List.cons.inj hcut
        exact ht (by simp [hk])

theorem pair_cut_unique {f t g f' t' g' : List Char} (hf : ¬ [':', ':'] <:+: f) (ht : ':' ∉ t)
    (hne : t ≠ []) (hg : ¬ [':', ':'] <:+: g) (hf' : ¬ [':', ':'] <:+: f') (ht' : ':' ∉ t')
    (hne' : t' ≠ []) (hg' : ¬ [':', ':'] <:+: g')
    (h : f ++ ':' :: (t ++ ':' :: ':' :: g) = f' ++ ':' :: (t' ++ ':' :: ':' :: g')) :
    f = f' ∧ t ++ ':' :: ':' :: g = t' ++ ':' :: ':' :: g' := by
  rcases List.append_eq_append_iff.1 h with ⟨m, hm, hcut⟩ | ⟨m, hm, hcut⟩
  · obtain rfl := no_later_cut ht hg hf' ht' hne' hm hcut
    exact ⟨by simp [hm], (List.cons.inj hcut).2⟩
  · obtain rfl := no_later_cut ht' hg' hf ht hne hm hcut
    exact ⟨by simp [hm], (List.cons.inj hcut).2.symm⟩

theorem join_injective {a b c d : String} (ha : IsTestKey a) (hb : IsTestKey b) (hc : IsTestKey c)
    (hd : IsTestKey d) (h : a ++ ":" ++ b = c ++ ":" ++ d) : a = c ∧ b = d := by
  obtain ⟨s, hs, rfl⟩ := ha
  obtain ⟨t, ht, rfl⟩ := hb
  obtain ⟨u, hu, rfl⟩ := hc
  obtain ⟨v, hv, rfl⟩ := hd
  have htext := congrArg String.toList h
  simp only [String.toList_append, TestId.toList_similarityKey, List.append_assoc,
    List.cons_append] at htext
  obtain ⟨hname, hrest⟩ := cut_at_colon hs.name_plain hu.name_plain htext
  obtain ⟨hfile, hsecond⟩ := pair_cut_unique hs.file_plain ht.name_plain
    (mt String.toList_eq_nil_iff.1 ht.name_ne) ht.file_plain hu.file_plain hv.name_plain
    (mt String.toList_eq_nil_iff.1 hv.name_ne) hv.file_plain (List.cons.inj hrest).2
  constructor
  · apply String.ext
    rw [TestId.toList_similarityKey, TestId.toList_similarityKey, hname, hfile]
  · apply String.ext
    rw [TestId.toList_similarityKey, TestId.toList_similarityKey, hsecond]

theorem pairKey_comm (a b : String) : pairKey a b = pairKey b a := by
  simp only [pairKey]
  by_cases hab : a ≤ b
  · by_cases hba : b ≤ a
    · rw [String.le_antisymm hab hba]
    · simp [hab, hba]
  · have hba : b ≤ a := (String.le_total a b).resolve_left hab
    simp [hab, hba]

theorem pairKey_inj {a b c d : String} (ha : IsTestKey a) (hb : IsTestKey b) (hc : IsTestKey c)
    (hd : IsTestKey d) : pairKey a b = pairKey c d ↔ s(a, b) = s(c, d) := by
  rw [Sym2.eq_iff]
  constructor
  · intro h
    simp only [pairKey] at h
    split at h <;> split at h
    · exact .inl (join_injective ha hb hc hd h)
    · exact .inr (join_injective ha hb hd hc h)
    · exact .inr (join_injective hb ha hc hd h).symm
    · exact .inl (join_injective hb ha hd hc h).symm
  · rintro (⟨rfl, rfl⟩ | ⟨rfl, rfl⟩)
    · rfl
    · exact pairKey_comm a b

end TestTwins
