import TestTwins.Coverage.Fingerprint
import TestTwins.Digit
import TestTwins.Proofs.AdmittedRecords
import TestTwins.Proofs.JsonNumbers

namespace TestTwins

section Intercalate

variable {α : Type} [DecidableEq α] {mark : α} {parts parts' : List (List α)}

theorem intercalate_inj (h : ∀ p ∈ parts, mark ∉ p) (h' : ∀ p ∈ parts', mark ∉ p) (hne : parts ≠ [])
    (hne' : parts' ≠ []) :
    [mark].intercalate parts = [mark].intercalate parts' ↔ parts = parts' := by
  constructor
  · intro heq
    calc
      parts = ([mark].intercalate parts).splitOn mark := (List.splitOn_intercalate mark h hne).symm
      _ = ([mark].intercalate parts').splitOn mark := by rw [heq]
      _ = parts' := List.splitOn_intercalate mark h' hne'
  · rintro rfl
    rfl

omit [DecidableEq α] in
theorem mem_intercalate {a : α} (h : a ∈ [mark].intercalate parts) :
    a = mark ∨ ∃ p ∈ parts, a ∈ p := by
  induction parts with
  | nil => simp at h
  | cons first rest ih =>
    cases rest with
    | nil => exact .inr ⟨first, List.mem_cons_self, by simpa using h⟩
    | cons second rest =>
      rw [List.intercalate_cons_cons, List.mem_append, List.mem_append, List.mem_singleton] at h
      rcases h with (hfirst | hmark) | hrest
      · exact .inr ⟨first, List.mem_cons_self, hfirst⟩
      · exact .inl hmark
      · obtain hmark | ⟨p, hp, ha⟩ := ih hrest
        · exact .inl hmark
        · exact .inr ⟨p, List.mem_cons_of_mem first hp, ha⟩

end Intercalate

namespace Decimal

def IsNumeral (s : String) : Prop := ∀ c ∈ s.toList, c.isDigit ∨ c ∈ ['.', '-', '+', 'e']

theorem IsNumeral.append {s t : String} (hs : IsNumeral s) (ht : IsNumeral t) : IsNumeral (s ++ t) := by
  intro c hc
  rw [String.toList_append, List.mem_append] at hc
  exact hc.elim (hs c) (ht c)

theorem isNumeral_ofList {ds : List Char} (h : ∀ c ∈ ds, c.isDigit) : IsNumeral (String.ofList ds) := by
  intro c hc
  rw [String.toList_ofList] at hc
  exact .inl (h c hc)

theorem isNumeral_toString (n : Nat) : IsNumeral (toString n) := by
  intro c hc
  exact .inl (isDigit_of_mem_toDigits (n := n) (by simpa using hc))

theorem isNumeral_zeros (n : Nat) : IsNumeral (zeros n) := by
  apply isNumeral_ofList
  intro c hc
  rw [List.eq_of_mem_replicate hc]
  rfl

theorem isNumeral_signText (negative : Bool) : IsNumeral (signText negative) := by
  cases negative <;> simp [IsNumeral, signText]

section Digits

variable {ds : List Char} (hds : ∀ c ∈ ds, c.isDigit)
include hds

theorem isNumeral_positionalText (keepPoint : Bool) (k : Int) : IsNumeral (positionalText keepPoint ds k) := by
  have hpoint : IsNumeral "." := by simp [IsNumeral]
  simp only [positionalText]
  split
  · refine ((isNumeral_ofList hds).append (isNumeral_zeros _)).append ?_
    cases keepPoint <;> simp [IsNumeral]
  split
  · refine ((isNumeral_ofList ?_).append hpoint).append (isNumeral_ofList ?_)
    · exact fun c hc => hds c (List.mem_of_mem_take hc)
    · exact fun c hc => hds c (List.mem_of_mem_drop hc)
  · have hfront : IsNumeral "0." := by simp [IsNumeral]
    exact (hfront.append (isNumeral_zeros _)).append (isNumeral_ofList hds)

theorem isNumeral_exponentText (lead : Int) : IsNumeral (exponentText ds lead) := by
  have hpoint : IsNumeral "." := by simp [IsNumeral]
  have hmark : IsNumeral "e" := by simp [IsNumeral]
  have hsign : IsNumeral (if lead < 0 then "-" else "+") := by
    split <;> simp [IsNumeral]
  have hfraction : IsNumeral (if ds.length ≤ 1 then "" else "." ++ String.ofList (ds.drop 1)) := by
    split
    · simp [IsNumeral]
    · exact hpoint.append (isNumeral_ofList fun c hc => hds c (List.mem_of_mem_drop hc))
  have htake := isNumeral_ofList fun c hc => hds c (List.mem_of_mem_take (i := 1) hc)
  exact (((htake.append hfraction).append hmark).append hsign).append (isNumeral_toString _)

end Digits

theorem Digits.isNumeral_text (layout : Layout) (d : Digits) : IsNumeral (d.text layout) := by
  have hds : ∀ c ∈ Nat.toDigits 10 d.digits, c.isDigit := fun _ => isDigit_of_mem_toDigits
  simp only [Digits.text]
  split
  · exact isNumeral_positionalText hds _ _
  · exact isNumeral_exponentText hds _

theorem text_cases (layout : Layout) (nan infinity : String) (x : Float) :
    text layout nan infinity x = nan ∨
      (∃ negative, text layout nan infinity x = signText negative ++ infinity) ∨
      IsNumeral (text layout nan infinity x) := by
  simp only [text]
  split
  · exact .inl rfl
  · rename_i negative _
    exact .inr (.inl ⟨negative, rfl⟩)
  · rename_i negative _ _
    refine .inr (.inr ((isNumeral_signText negative).append ?_))
    split <;> simp [IsNumeral]
  · rename_i negative m q _ _
    exact .inr (.inr ((isNumeral_signText negative).append ((shortest m q).isNumeral_text layout)))

theorem IsNumeral.notMem {s : String} (hs : IsNumeral s) {c : Char} (hdigit : c.isDigit = false)
    (hmark : c ∉ ['.', '-', '+', 'e']) : c ∉ s.toList := by
  intro hc
  obtain hc | hc := hs c hc
  · rw [hdigit] at hc
    cases hc
  · exact hmark hc

theorem colon_notMem_text (x : Float) : ':' ∉ (text .plain "NaN" "inf" x).toList := by
  obtain hnan | ⟨negative, hinfinite⟩ | hnumeral := text_cases .plain "NaN" "inf" x
  · rw [hnan]
    decide
  · rw [hinfinite]
    cases negative <;> decide
  · exact hnumeral.notMem (by decide) (by decide)

end Decimal

theorem toString_nat_inj {m n : Nat} : toString m = toString n ↔ m = n := Nat.repr_inj

section Lines

open Decimal

def lineTexts (lines : LineSet) : List (List Char) := lines.toList.map fun n => Nat.toDigits 10 n

theorem toList_joinLines (lines : LineSet) :
    (joinLines lines).toList = [','].intercalate (lineTexts lines) := by
  rw [joinLines, String.toList_intercalate, List.map_map, lineTexts]
  congr 2
  funext n
  simp

theorem isDigit_of_mem_lineTexts {lines : LineSet} {ds : List Char} (hds : ds ∈ lineTexts lines) :
    ∀ c ∈ ds, c.isDigit := by
  obtain ⟨n, -, rfl⟩ := List.mem_map.1 hds
  exact fun _ => isDigit_of_mem_toDigits

theorem comma_notMem_lineTexts (lines : LineSet) : ∀ ds ∈ lineTexts lines, ',' ∉ ds := by
  intro ds hds hcomma
  exact absurd (isDigit_of_mem_lineTexts hds ',' hcomma) (by decide)

theorem colon_notMem_joinLines (lines : LineSet) : ':' ∉ (joinLines lines).toList := by
  rw [toList_joinLines]
  intro hcolon
  obtain hcomma | ⟨ds, hds, hcolon⟩ := mem_intercalate hcolon
  · exact absurd hcomma (by decide)
  · exact absurd (isDigit_of_mem_lineTexts hds ':' hcolon) (by decide)

theorem lineTexts_inj {s t : LineSet} : lineTexts s = lineTexts t ↔ s = t := by
  have hinj : Function.Injective fun n => Nat.toDigits 10 n := by
    intro m n h
    have hofDigits := congrArg ofDigits h
    rwa [ofDigits_toDigits, ofDigits_toDigits] at hofDigits
  rw [lineTexts, lineTexts, hinj.list_map.eq_iff]
  exact OrderedSet.ext_iff.symm

theorem lineTexts_ne_nil {s : LineSet} (h : s ≠ .empty) : lineTexts s ≠ [] := by
  intro hnone
  exact h (lineTexts_inj.1 (hnone.trans rfl))

theorem joinLines_eq_empty_iff {s : LineSet} : joinLines s = "" ↔ s = .empty := by
  constructor
  · intro h
    by_contra hne
    have hsplit := List.splitOn_intercalate ',' (comma_notMem_lineTexts s) (lineTexts_ne_nil hne)
    rw [← toList_joinLines, h] at hsplit
    have hnil : [] ∈ lineTexts s := by
      rw [← hsplit]
      exact List.mem_singleton_self []
    obtain ⟨n, -, hn⟩ := List.mem_map.1 hnil
    exact Nat.toDigits_ne_nil hn
  · rintro rfl
    rfl

theorem joinLines_inj {s t : LineSet} : joinLines s = joinLines t ↔ s = t := by
  constructor
  · intro h
    by_cases hs : s = .empty
    · subst hs
      exact (joinLines_eq_empty_iff.1 (h.symm.trans rfl)).symm
    have ht : t ≠ .empty := by
      rintro rfl
      exact hs (joinLines_eq_empty_iff.1 h)
    rw [← String.toList_inj, toList_joinLines, toList_joinLines] at h
    exact lineTexts_inj.1 ((intercalate_inj (comma_notMem_lineTexts s) (comma_notMem_lineTexts t)
      (lineTexts_ne_nil hs) (lineTexts_ne_nil ht)).1 h)
  · rintro rfl
    rfl

end Lines

namespace Digest

open Digit (ofBase value?)

theorem ofBase_hexDigits (width n : Nat) : ofBase 16 (hexDigits width n).toList = n := by
  have hzeros : ∀ k, (List.replicate k '0').foldl (fun n c => 16 * n + (value? c).getD 0) 0 = 0 := by
    intro k
    induction k with
    | zero => rfl
    | succ k ih => rwa [List.replicate_succ, List.foldl_cons]
  rw [hexDigits, String.toList_ofList, ofBase, List.foldl_append, hzeros]
  exact Digit.ofBase_toDigits n

theorem length_hexDigits {n : Nat} (hn : n < 16 ^ 16) : (hexDigits 16 n).toList.length = 16 := by
  have hlength : (Nat.toDigits 16 n).length ≤ 16 := (Nat.length_toDigits_le_iff (by decide) (by decide)).2 hn
  rw [hexDigits, String.toList_ofList, List.length_append, List.length_replicate]
  omega

theorem hexDigits_inj {m n : Nat} (h : hexDigits 16 m = hexDigits 16 n) : m = n := by
  rw [← ofBase_hexDigits 16 m, h, ofBase_hexDigits]

theorem lt_of_word (x : UInt64) : x.toNat < 16 ^ 16 := x.toNat_lt.trans_eq (by decide)

theorem length_hex128 (s : String) : (hex128 s).length = 32 := by
  rw [← String.length_toList, hex128, String.toList_append, List.length_append,
    length_hexDigits (lt_of_word _), length_hexDigits (lt_of_word _)]

theorem hex128_eq_iff {s t : String} : hex128 s = hex128 t ↔ digest128 s.toUTF8 = digest128 t.toUTF8 := by
  constructor
  · intro h
    have hlists := congrArg String.toList h
    rw [hex128, hex128, String.toList_append, String.toList_append] at hlists
    -- Either half has sixteen digits, so the text falls into its halves in one way only.
    obtain ⟨hhigh, hlow⟩ := List.append_inj hlists
      ((length_hexDigits (lt_of_word _)).trans (length_hexDigits (lt_of_word _)).symm)
    apply Prod.ext
    · exact UInt64.toNat_inj.1 (hexDigits_inj (String.toList_inj.1 hlow))
    · exact UInt64.toNat_inj.1 (hexDigits_inj (String.toList_inj.1 hhigh))
  · intro h
    rw [hex128, hex128, h]

/-- Two texts that the digest function takes to one value. -/
structure Collision (s t : String) : Prop where
  distinct : s ≠ t
  digest : digest128 s.toUTF8 = digest128 t.toUTF8

theorem hex128_eq_iff_or_collision {s t : String} : hex128 s = hex128 t ↔ s = t ∨ Collision s t := by
  rw [hex128_eq_iff]
  constructor
  · intro h
    by_cases hst : s = t
    · exact .inl hst
    · exact .inr ⟨hst, h⟩
  · rintro (rfl | h)
    · rfl
    · exact h.digest

end Digest

structure Record.SameCoverage (r r' : Record Float) : Prop where
  covered : r.covered = r'.covered
  linesTotal : r.linesTotal = r'.linesTotal
  branchesCovered : r.branchesCovered = r'.branchesCovered
  branchesTotal : r.branchesTotal = r'.branchesTotal

namespace Fingerprint

open Record (SameCoverage Tallied)

def hashParts (r : Record Float) : List String :=
  [toString r.linesCovered, toString r.linesTotal, toString r.branchesCovered, toString r.branchesTotal,
    Decimal.text .plain "NaN" "inf" r.percentage] ++ if r.covered.isEmpty then [] else [joinLines r.covered]

theorem hashInput_eq (r : Record Float) : hashInput r = String.intercalate ":" (hashParts r) := by
  rw [hashInput, hashParts]
  split <;> simp [String.intercalate_cons_cons, String.append_assoc]

theorem colon_notMem_hashParts (r : Record Float) : ∀ part ∈ hashParts r, ':' ∉ part.toList := by
  have hnat : ∀ n : Nat, ':' ∉ (toString n).toList := fun n =>
    (Decimal.isNumeral_toString n).notMem (by decide) (by decide)
  have hlines : ∀ part ∈ (if r.covered.isEmpty then [] else [joinLines r.covered]), ':' ∉ part.toList := by
    split
    · simp
    · simpa using colon_notMem_joinLines r.covered
  simp only [hashParts, List.forall_mem_append, List.forall_mem_cons, List.not_mem_nil, false_implies,
    implies_true, and_true]
  exact ⟨⟨hnat _, hnat _, hnat _, hnat _, Decimal.colon_notMem_text _⟩, hlines⟩

theorem hashInput_eq_iff_parts {r r' : Record Float} :
    hashInput r = hashInput r' ↔ hashParts r = hashParts r' := by
  have hparts : ∀ q : Record Float, ∀ part ∈ (hashParts q).map String.toList, ':' ∉ part := by
    intro q part hpart
    obtain ⟨text, htext, rfl⟩ := List.mem_map.1 hpart
    exact colon_notMem_hashParts q text htext
  have hne : ∀ q : Record Float, (hashParts q).map String.toList ≠ [] := fun q => by simp [hashParts]
  have hinj : Function.Injective String.toList := fun _ _ => String.toList_inj.1
  rw [hashInput_eq, hashInput_eq, ← String.toList_inj, String.toList_intercalate, String.toList_intercalate,
    ← hinj.list_map.eq_iff]
  exact intercalate_inj (hparts r) (hparts r') (hne r) (hne r')

theorem covered_eq_of_lines {s t : LineSet}
    (h : (if s.isEmpty then [] else [joinLines s]) = if t.isEmpty then [] else [joinLines t]) : s = t := by
  have hempty : ∀ u : LineSet, u.isEmpty → u = .empty := fun u hu => OrderedSet.ext (List.isEmpty_iff.1 hu)
  split at h <;> split at h
  · rename_i hs ht
    rw [hempty s hs, hempty t ht]
  · cases h
  · cases h
  · exact joinLines_inj.1 (List.head_eq_of_cons_eq h)

theorem hashInput_eq_iff {r r' : Record Float} (hr : r.Tallied) (hr' : r'.Tallied) :
    hashInput r = hashInput r' ↔ SameCoverage r r' := by
  rw [hashInput_eq_iff_parts]
  constructor
  · intro h
    simp only [hashParts, List.cons_append, List.nil_append, List.cons.injEq, toString_nat_inj] at h
    obtain ⟨-, htotal, hbranches, hbranchesTotal, -, hlines⟩ := h
    exact ⟨covered_eq_of_lines hlines, htotal, hbranches, hbranchesTotal⟩
  -- The lines determine their count, and the two counts the percentage.
  · intro h
    have hcovered : r.linesCovered = r'.linesCovered := by
      rw [hr.linesCovered, hr'.linesCovered, h.covered]
    have hpercentage : r.percentage = r'.percentage := by
      rw [hr.percentage, hr'.percentage, hcovered, h.linesTotal]
    rw [hashParts, hashParts, hcovered, h.linesTotal, h.branchesCovered, h.branchesTotal, hpercentage,
      h.covered]

theorem hash_ofRecord (r : Record Float) : (ofRecord r).hash = Digest.hex128 (hashInput r) := rfl

/-- Of two records made from lines, the same text is digested if and only if they have the same coverage,
whatever else they say, and sets of lines have the same text only if they are the same. So the hashes of
their fingerprints agree only if the coverage does, or if the digest function takes two texts to one
value. -/
theorem hashInput_identifies (test test' : String) (file file' : Path) (line line' : Nat)
    (covered covered' missing missing' : LineSet) (branches branches' : Branches)
    (signature signature' : Option String) :
    let r : Record Float := .ofLines test file line covered missing branches signature
    let r' : Record Float := .ofLines test' file' line' covered' missing' branches' signature'
    (hashInput r = hashInput r' ↔ SameCoverage r r') ∧
      (joinLines covered = joinLines covered' ↔ covered = covered') ∧
      ((ofRecord r).hash = (ofRecord r').hash ↔
        SameCoverage r r' ∨ Digest.Collision (hashInput r) (hashInput r')) := by
  intro r r'
  have htext : hashInput r = hashInput r' ↔ SameCoverage r r' :=
    hashInput_eq_iff (Record.tallied_ofLines ..) (Record.tallied_ofLines ..)
  refine ⟨htext, joinLines_inj, ?_⟩
  rw [hash_ofRecord, hash_ofRecord, Digest.hex128_eq_iff_or_collision, htext]

example : hashInput (.ofLines "test_a" ⟨"t.py"⟩ 1 (.ofList [1, 12]) (.ofList [5]) ⟨3, 4⟩ none) =
    "2:3:3:4:66.66666666666666:1,12" := by
  decide +kernel

end Fingerprint

end TestTwins
