import TestTwins.Proofs.DoubleOrder
import TestTwins.Proofs.Folders
import TestTwins.Proofs.SignatureLog

namespace TestTwins

def agreements (a b : String) : Nat :=
  (List.range (min a.length b.length)).countP fun i => a.toList[i]? == b.toList[i]?

theorem length_filter_zip (as bs : List Char) :
    ((as.zip bs).filter fun (x, y) => x == y).length =
      (List.range (min as.length bs.length)).countP fun i => as[i]? == bs[i]? := by
  induction as generalizing bs with
  | nil => simp
  | cons x as ih =>
    cases bs with
    | nil => simp
    | cons y bs =>
      have hrest : (List.range (min as.length bs.length)).countP
          ((fun i => (x :: as)[i]? == (y :: bs)[i]?) ∘ Nat.succ) = _ := (ih bs).symm
      rw [List.length_cons, List.length_cons, Nat.succ_min_succ, List.range_succ_eq_map, List.countP_cons,
        List.countP_map, hrest, List.zip_cons_cons, List.filter_cons]
      by_cases hxy : x = y <;> simp [hxy]

theorem agreements_comm (a b : String) : agreements a b = agreements b a := by
  simp only [agreements, Nat.min_comm, Bool.beq_comm]

theorem agreements_le (a b : String) : agreements a b ≤ min a.length b.length :=
  List.countP_le_length.trans_eq List.length_range

theorem agreements_eq_max_iff {a b : String} : agreements a b = max a.length b.length ↔ a = b := by
  constructor
  · intro h
    have hle := agreements_le a b
    have hlength : a.length = b.length := by omega
    have hall : agreements a b = (List.range (min a.length b.length)).length := by
      rw [List.length_range]
      omega
    rw [← String.toList_inj]
    refine List.ext_getElem? fun i => ?_
    by_cases hi : i < a.length
    · have hagree := List.countP_eq_length.1 hall i (List.mem_range.2 (by omega))
      exact eq_of_beq hagree
    · rw [List.getElem?_eq_none (String.length_toList.trans_le (by omega)),
        List.getElem?_eq_none (String.length_toList.trans_le (by omega))]
  · rintro rfl
    simp [agreements]

section Similarity

variable {a b : String}

theorem hashSimilarity_self {K : Type} [Scalar K] (ha : a ≠ "") :
    (hashSimilarity a a : K) = Scalar.one := by
  simp [hashSimilarity, ha]

theorem hashSimilarity_of_ne {K : Type} [Scalar K] (ha : a ≠ "") (hb : b ≠ "") (hab : a ≠ b) :
    (hashSimilarity a b : K) = Scalar.ratio (agreements a b) (max a.length b.length) := by
  have hcount := length_filter_zip a.toList b.toList
  rw [String.length_toList, String.length_toList] at hcount
  simp [hashSimilarity, ha, hb, hab, agreements, hcount]

theorem length_ne_zero (ha : a ≠ "") : a.length ≠ 0 := by
  rwa [← String.length_toList, ne_eq, List.length_eq_zero_iff, String.toList_eq_nil_iff]

theorem hashSimilarity_eq (a b : String) :
    (hashSimilarity a b : ℚ) = agreements a b / max a.length b.length := by
  have hempty : ∀ c : String, agreements "" c = 0 := fun c => by simp [agreements]
  by_cases ha : a = ""
  · subst ha
    simp [hashSimilarity, hempty, Scalar.zero, Scalar.ofNat]
  by_cases hb : b = ""
  · subst hb
    simp [hashSimilarity, agreements_comm a, hempty, Scalar.zero, Scalar.ofNat]
  by_cases hab : a = b
  · subst hab
    have hlength : (a.length : ℚ) ≠ 0 := Nat.cast_ne_zero.2 (length_ne_zero ha)
    rw [hashSimilarity_self ha, agreements_eq_max_iff.2 rfl, Nat.max_self, div_self hlength]
    exact Nat.cast_one
  · exact hashSimilarity_of_ne ha hb hab

theorem hashSimilarity_comm (a b : String) : (hashSimilarity a b : ℚ) = hashSimilarity b a := by
  rw [hashSimilarity_eq, hashSimilarity_eq, agreements_comm, max_comm]

theorem hashSimilarity_range (a b : String) :
    0 ≤ (hashSimilarity a b : ℚ) ∧ (hashSimilarity a b : ℚ) ≤ 1 := by
  have hle : agreements a b ≤ max a.length b.length := by
    have hmin := agreements_le a b
    omega
  rw [hashSimilarity_eq]
  exact ⟨by positivity, div_le_one_of_le₀ (Nat.cast_le.2 hle) (Nat.cast_nonneg _)⟩

theorem hashSimilarity_eq_one_iff {a b : String} : (hashSimilarity a b : ℚ) = 1 ↔ a = b ∧ a ≠ "" := by
  constructor
  · intro h
    rw [hashSimilarity_eq] at h
    have hne : ((max a.length b.length : Nat) : ℚ) ≠ 0 := by
      intro hzero
      simp [hzero] at h
    rw [div_eq_one_iff_eq hne, Nat.cast_inj] at h
    obtain rfl := agreements_eq_max_iff.1 h
    refine ⟨rfl, ?_⟩
    rintro rfl
    simp at hne
  · rintro ⟨rfl, ha⟩
    rw [hashSimilarity_self ha]
    exact Nat.cast_one

end Similarity

namespace Double

theorem atMost_ratio_of_lt {n m : Nat} (hnm : n < m) (hm : m < 2 ^ 48) :
    AtMost (Scalar.ratio n m) (1 - 1 / 2 ^ 50) := by
  have hword : m < Word.count := hm.trans (by decide)
  obtain ⟨v, hv, herror⟩ := denotes_ofNat (hnm.trans hword)
  obtain ⟨w, hw, herror'⟩ := denotes_ofNat hword
  rw [abs_le] at herror herror'
  have hle : (n : ℚ) + 1 ≤ m := by exact_mod_cast hnm
  have hsmall : (m : ℚ) ≤ 2 ^ 48 := by exact_mod_cast hm.le
  have hone : (1 : ℚ) ≤ m := by exact_mod_cast (Nat.zero_le n).trans_lt hnm
  have hpos : 0 < w := by linarith
  have hquotient : v / w ≤ 1 - 1 / 2 ^ 49 := by
    rw [div_le_iff₀ hpos]
    linarith
  obtain ⟨u, hu, -, hrounds⟩ := hv.div hw hpos (by linarith)
  change AtMost (Float.ofModel (Float.Model.ofNat n.toUInt64.toNat /
    Float.Model.ofNat m.toUInt64.toNat)) _
  rw [toNat_toUInt64 (hnm.trans hword), toNat_toUInt64 hword]
  exact hrounds.atMost (hu.trans hquotient) (by norm_num)

theorem denotes_one : Denotes (Scalar.one : Float).toModel.unpack ((2 ^ 52 : Nat) * 2 ^ (-52 : Int)) :=
  denotes_of_digits (by decide +kernel) (by decide)

theorem not_one_le_ratio {n m : Nat} (hnm : n < m) (hm : m < 2 ^ 48) :
    ¬ (Scalar.one : Float) ≤ Scalar.ratio n m :=
  (atMost_ratio_of_lt hnm hm).not_le denotes_one (by norm_num)

theorem not_one_le_zero : ¬ (Scalar.one : Float) ≤ Scalar.zero := by
  decide +kernel

end Double

/-- Full marks are a sign of the same hash, unless rounding hides a difference. -/
def Discerns (K : Type) [Scalar K] (target hash : String) : Prop :=
  (Scalar.one : K) ≤ hashSimilarity target hash → hash = target

theorem discerns_rat (target hash : String) : Discerns ℚ target hash := by
  intro h
  have hone : (1 : ℚ) ≤ hashSimilarity target hash := h
  exact (hashSimilarity_eq_one_iff.1 ((hashSimilarity_range target hash).2.antisymm hone)).1.symm

theorem discerns_float {target hash : String} (htarget : target.length < 2 ^ 48)
    (hhash : hash.length < 2 ^ 48) : Discerns Float target hash := by
  intro h
  by_contra hne
  by_cases hempty : target = "" ∨ hash = ""
  · have hzero : (hashSimilarity target hash : Float) = Scalar.zero := by
      simp [hashSimilarity, hempty]
    exact Double.not_one_le_zero (hzero ▸ h)
  · obtain ⟨htarget', hhash'⟩ := not_or.1 hempty
    have hlt : agreements target hash < max target.length hash.length := by
      have hmin := agreements_le target hash
      have hmax : agreements target hash ≠ max target.length hash.length :=
        fun heq => hne (agreements_eq_max_iff.1 heq).symm
      omega
    rw [hashSimilarity_of_ne htarget' hhash' (Ne.symm hne)] at h
    exact Double.not_one_le_ratio hlt (by omega) h

namespace Store

variable {s : Store} {d : Disk} {target : String}

section Lookup

variable (K : Type) [Scalar K] [Ranked K] [DecidableEq K]

/-- Lookups of signatures near a hash: each ranks all that are stored, and a higher threshold gives the
beginning of what a lower one gives. -/
structure IsLookup (s : Store) (d : Disk) (target : String) : Prop where
  ranks : ∀ threshold : K, Ranks ((s.signatures d).map fun r => (r, hashSimilarity target r.hash)) threshold
    (s.similarSignatures d target threshold)
  raised : ∀ low high : K, low ≤ high →
    s.similarSignatures d target high <+: s.similarSignatures d target low

def ExactFirst (s : Store) (d : Disk) (target : String) : Prop :=
  ∀ threshold : K, (s.similarSignatures d target threshold).Pairwise fun a b =>
    b.1.hash = target → a.1.hash = target

variable [LawfulRanked K]

theorem isLookup (s : Store) (d : Disk) (target : String) : IsLookup K s d target where
  ranks threshold := ranks_sortByScore _ threshold
  raised _ _ := sortByScore_isPrefix _

variable {K}

theorem exactFirst (htarget : target ≠ "") (h : ∀ r ∈ s.signatures d, Discerns K target r.hash) :
    ExactFirst K s d target := by
  intro threshold
  have hranks := (isLookup K s d target).ranks threshold
  have hscore : ∀ item ∈ s.similarSignatures d target threshold,
      item.1 ∈ s.signatures d ∧ item.2 = hashSimilarity target item.1.hash := by
    intro item hitem
    have hscored := (List.mem_filter.1 (hranks.perm.mem_iff.1 hitem)).1
    obtain ⟨r, hr, rfl⟩ := List.mem_map.1 hscored
    exact ⟨hr, rfl⟩
  refine hranks.descending.imp_of_mem ?_
  intro a b ha hb hle hexact
  obtain ⟨hstored, ha'⟩ := hscore a ha
  obtain ⟨-, hb'⟩ := hscore b hb
  rw [hexact, hashSimilarity_self htarget] at hb'
  apply h a.1 hstored
  rwa [← ha', ← hb']

end Lookup

/-- Over fractions, the similarity of two hashes is the share of positions at which they agree, whatever
their lengths, with all that follows from it. Signatures are looked up by it in the order of their
scores, and those with the very hash come first; over doubles the hashes must not be so long that one
position cannot be told from rounding. -/
theorem similarSignatures_nearest (s : Store) (d : Disk) (target : String) :
    (∀ a b : String, (hashSimilarity a b : ℚ) = agreements a b / max a.length b.length ∧
      (hashSimilarity a b : ℚ) = hashSimilarity b a ∧
      (0 ≤ (hashSimilarity a b : ℚ) ∧ (hashSimilarity a b : ℚ) ≤ 1) ∧
      ((hashSimilarity a b : ℚ) = 1 ↔ a = b ∧ a ≠ "")) ∧
    IsLookup ℚ s d target ∧ IsLookup Float s d target ∧
    (target ≠ "" → ExactFirst ℚ s d target ∧
      (target.length < 2 ^ 48 → (∀ r ∈ s.signatures d, r.hash.length < 2 ^ 48) →
        ExactFirst Float s d target)) := by
  refine ⟨fun a b => ?_, isLookup ℚ s d target, isLookup Float s d target, fun htarget => ⟨?_, ?_⟩⟩
  · exact ⟨hashSimilarity_eq a b, hashSimilarity_comm a b, hashSimilarity_range a b,
      hashSimilarity_eq_one_iff⟩
  · exact exactFirst htarget fun r _ => discerns_rat target r.hash
  · intro hshort hall
    exact exactFirst htarget fun r hr => discerns_float hshort (hall r hr)

def nearSignature : SignatureRecord := ⟨"test_a", "abd", [0.5], "p", .epoch, "s"⟩

def sameSignature : SignatureRecord := ⟨"test_b", "abc", [0.5], "p", .epoch, "s"⟩

def twoSignatures : Disk :=
  ⟨[(["signatures"], .directory), (["signatures", "signatures.json"],
    .file ⟨some (SignatureRecord.listToJson [nearSignature, sameSignature]).pretty, false, 0⟩)], []⟩

theorem signatures_twoSignatures :
    signatures ⟨⟨"/"⟩, 30, true⟩ twoSignatures = [nearSignature, sameSignature] := by
  have hfind : twoSignatures.find (signaturesPath ⟨⟨"/"⟩, 30, true⟩) =
      .ok (["signatures", "signatures.json"], _) :=
    Disk.find_eq_ok_iff.2 ⟨by decide +kernel, rfl⟩
  have hprintable : ∀ r ∈ [nearSignature, sameSignature], r.Printable := by
    simp only [List.forall_mem_cons, List.not_mem_nil, false_implies, implies_true, and_true]
    exact ⟨⟨List.forall_mem_singleton.2 fun _ => Json.readsBack_half, Moment.readsBack_epoch⟩,
      ⟨List.forall_mem_singleton.2 fun _ => Json.readsBack_half, Moment.readsBack_epoch⟩⟩
  rw [signatures, load_eq rfl, Disk.readText_of_find hfind rfl]
  simp only [SignatureRecord.decode_list hprintable]
  rw [if_pos (by decide +kernel), Option.getD_some]

theorem similarSignatures_nearest_two :
    let s : Store := ⟨⟨"/"⟩, 30, true⟩
    s.signatures twoSignatures = [nearSignature, sameSignature] ∧ ExactFirst Float s twoSignatures "abc" := by
  intro s
  have hsignatures : s.signatures twoSignatures = [nearSignature, sameSignature] := signatures_twoSignatures
  refine ⟨hsignatures, ((similarSignatures_nearest s twoSignatures "abc").2.2.2 (by decide)).2 (by decide) ?_⟩
  rw [hsignatures]
  decide

end Store

end TestTwins
