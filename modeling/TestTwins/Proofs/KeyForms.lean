import TestTwins.Proofs.KeyLaws

namespace TestTwins

theorem notMem_of_splitLast_eq_none {c : Char} {s : List Char} (h : splitLast c s = none) : c ∉ s := by
  induction s with
  | nil => exact List.not_mem_nil
  | cons d rest ih =>
    simp only [splitLast] at h
    split at h
    · cases h
    · rename_i hrest
      split at h
      · cases h
      · rename_i hd
        exact List.not_mem_cons_of_ne_of_not_mem (Ne.symm hd) (ih hrest)

theorem notMem_of_splitLast {c : Char} {s a b : List Char} (h : splitLast c s = some (a, b)) :
    c ∉ b := by
  induction s generalizing a with
  | nil => cases h
  | cons d rest ih =>
    simp only [splitLast] at h
    split at h
    · rename_i a' b' hrest
      cases h
      exact ih hrest
    · rename_i hrest
      split at h
      · cases h
        exact notMem_of_splitLast_eq_none hrest
      · cases h

theorem eq_append_of_splitDouble {s a b : List Char} (h : splitDouble s = some (a, b)) :
    s = a ++ ':' :: ':' :: b := by
  fun_induction splitDouble s generalizing a with
  | case1 => cases h
  | case2 rest =>
    cases h
    rfl
  | case3 d rest _ ih =>
    obtain ⟨⟨a', b'⟩, hrest, heq⟩ := Option.map_eq_some_iff.1 h
    cases heq
    rw [ih hrest, List.cons_append]

namespace TestId

theorem ofParts?_eq_some_iff {name file : List Char} {t : TestId} :
    ofParts? name file = some t ↔
      t.name.toList = name ∧ t.file.toList = file ∧ t.name ≠ "" ∧ t.file ≠ "" := by
  constructor
  · intro h
    simp only [ofParts?] at h
    split at h
    · cases h
    · rename_i hparts
      cases h
      simpa [not_or] using hparts
  · rintro ⟨rfl, rfl, hname, hfile⟩
    exact ofParts?_toList hname hfile

theorem ofFeatureKey?_eq_some_iff {key : String} {t : TestId} :
    ofFeatureKey? key = some t ↔
      t.featureKey = key ∧ ':' ∉ t.name.toList ∧ t.name ≠ "" ∧ t.file ≠ "" := by
  constructor
  · intro h
    have hkey := featureKey_of_ofFeatureKey? h
    obtain ⟨⟨file, name⟩, hsplit, hparts⟩ := Option.bind_eq_some_iff.1 h
    obtain ⟨rfl, rfl, hname, hfile⟩ := ofParts?_eq_some_iff.1 hparts
    exact ⟨hkey, notMem_of_splitLast hsplit, hname, hfile⟩
  · rintro ⟨rfl, hplain, hname, hfile⟩
    exact ofFeatureKey?_featureKey hname hplain hfile

theorem similarityKey_of_ofSimilarityKey? {key : String} {t : TestId}
    (h : ofSimilarityKey? key = some t) : t.similarityKey = key ∧ t.name ≠ "" ∧ t.file ≠ "" := by
  obtain ⟨⟨name, file⟩, hsplit, hparts⟩ := Option.bind_eq_some_iff.1 h
  obtain ⟨rfl, rfl, hname, hfile⟩ := ofParts?_eq_some_iff.1 hparts
  refine ⟨String.ext ?_, hname, hfile⟩
  rw [toList_similarityKey, eq_append_of_splitDouble hsplit]

theorem toSimilarityKey?_featureKey {t : TestId} (hname : t.name ≠ "") (hplain : ':' ∉ t.name.toList)
    (hfile : t.file ≠ "") : toSimilarityKey? t.featureKey = some t.similarityKey := by
  rw [toSimilarityKey?, ofFeatureKey?_featureKey hname hplain hfile, Option.map_some]

theorem toSimilarityKey?_featureKey_iff {key : String} {t : TestId}
    (h : ofSimilarityKey? key = some t) :
    toSimilarityKey? t.featureKey = some key ↔ ':' ∉ t.name.toList := by
  obtain ⟨hkey, hname, hfile⟩ := similarityKey_of_ofSimilarityKey? h
  constructor
  · intro hback
    obtain ⟨u, hu, hukey⟩ := Option.map_eq_some_iff.1 hback
    obtain ⟨-, huplain, huname, hufile⟩ := ofFeatureKey?_eq_some_iff.1 hu
    have hread := ofSimilarityKey?_similarityKey huname huplain hufile
    rw [hukey, h] at hread
    obtain rfl := Option.some.inj hread
    exact huplain
  · intro hplain
    rw [← hkey]
    exact toSimilarityKey?_featureKey hname hplain hfile

/-- Every text that can be read as `file:test` is written again by what is read from it, the name has no
colon, and the other form leads back to it. Every text that can be read as `test::file` is written again
as well, and the other form leads back to it if and only if the name has no colon. Both forms of a test
with such a name are read as that test, whatever colons its file has. -/
theorem forms_correspond :
    (∀ key t, ofFeatureKey? key = some t →
        t.featureKey = key ∧ ':' ∉ t.name.toList ∧
          (toSimilarityKey? key).bind toFeatureKey? = some key) ∧
      (∀ key t, ofSimilarityKey? key = some t →
        t.similarityKey = key ∧
          ((toFeatureKey? key).bind toSimilarityKey? = some key ↔ ':' ∉ t.name.toList)) ∧
      ∀ t : TestId, t.name ≠ "" → ':' ∉ t.name.toList → t.file ≠ "" →
        ofFeatureKey? t.featureKey = some t ∧ ofSimilarityKey? t.similarityKey = some t := by
  refine ⟨fun key t h => ?_, fun key t h => ?_, fun t hname hplain hfile => ?_⟩
  · obtain ⟨hkey, hplain, hname, hfile⟩ := ofFeatureKey?_eq_some_iff.1 h
    refine ⟨hkey, hplain, ?_⟩
    rw [toSimilarityKey?, h, Option.map_some, Option.bind_some, TestTwins.toFeatureKey?,
      ofSimilarityKey?_similarityKey hname hplain hfile, Option.map_some, hkey]
  · refine ⟨(similarityKey_of_ofSimilarityKey? h).1, ?_⟩
    rw [TestTwins.toFeatureKey?, h, Option.map_some, Option.bind_some]
    exact toSimilarityKey?_featureKey_iff h
  · exact ⟨ofFeatureKey?_featureKey hname hplain hfile, ofSimilarityKey?_similarityKey hname hplain hfile⟩

example :
    ofSimilarityKey? "t:::x" = some ⟨"t", ":x"⟩ ∧ ofFeatureKey? "t:::x" = some ⟨"x", "t::"⟩ := by decide

example : (toFeatureKey? "a:b::f").bind toSimilarityKey? = some "b::f:a" := by decide

end TestId

end TestTwins
