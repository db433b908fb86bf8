import TestTwins.Proofs.DoubleBounds
import TestTwins.Proofs.Ranking

/-! The order of doubles. Without its sign, a double is as many steps from zero as its bits say, whether it
is normal or not, and doubles are compared by these numbers of steps. So the order by bits, which has a
place for every double, agrees with the order by size wherever there is one. -/

namespace TestTwins.Double

open Float.Model Float.Model.UnpackedFloat

def steps? : UnpackedFloat → Option Int
  | .notANumber => none
  | .zero _ => some 0
  | .infinity s => some (s.apply (2047 * 2 ^ 52))
  | .finite s m e _ => some (s.apply ((e + 1074) * 2 ^ 52 + m))

def IsDouble : UnpackedFloat → Prop
  | .finite _ m e _ => IsWritten m e
  | _ => True

theorem steps_bounds {m : Nat} {e : Int} (hm : 0 < m) (hw : IsWritten m e) :
    0 < (e + 1074) * 2 ^ 52 + m ∧ (e + 1074) * 2 ^ 52 + m < 2047 * 2 ^ 52 := by
  obtain ⟨hdigits, hleast, hgreatest, hnormal⟩ := hw
  omega

theorem steps_range (s : Sign) {m : Nat} {e : Int} (hm : 0 < m) (hw : IsWritten m e) :
    -(2047 * 2 ^ 52) < s.apply ((e + 1074) * 2 ^ 52 + m) ∧
      s.apply ((e + 1074) * 2 ^ 52 + m) < 2047 * 2 ^ 52 := by
  obtain ⟨hpos, hbelow⟩ := steps_bounds hm hw
  cases s <;> simp only [Sign.apply] <;> omega

theorem compare_steps {m n : Nat} {e f : Int} (hm : IsWritten m e) (hn : IsWritten n f) :
    (compare e f).then (compare m n) =
      compare ((e + 1074) * 2 ^ 52 + m) ((f + 1074) * 2 ^ 52 + n) := by
  obtain ⟨hdigits, hleast, -, hnormal⟩ := hm
  obtain ⟨hdigits', hleast', -, hnormal'⟩ := hn
  rcases lt_trichotomy e f with hlt | rfl | hgt
  · rw [Int.compare_eq_lt.2 hlt, Int.compare_eq_lt.2 (by omega)]
    rfl
  · rcases lt_trichotomy m n with hlt | rfl | hgt
    · rw [Int.compare_eq_eq.2 rfl, Nat.compare_eq_lt.2 hlt, Int.compare_eq_lt.2 (by omega)]
      rfl
    · simp
    · rw [Int.compare_eq_eq.2 rfl, Nat.compare_eq_gt.2 hgt, Int.compare_eq_gt.2 (by omega)]
      rfl
  · rw [Int.compare_eq_gt.2 hgt, Int.compare_eq_gt.2 (by omega)]
    rfl

theorem compare_neg (k l : Int) : compare (-k) (-l) = (compare k l).swap := by
  rcases lt_trichotomy k l with hlt | rfl | hgt
  · rw [Int.compare_eq_lt.2 hlt, Int.compare_eq_gt.2 (by omega)]
    rfl
  · simp
  · rw [Int.compare_eq_gt.2 hgt, Int.compare_eq_lt.2 (by omega)]
    rfl

theorem some_compare_of_lt {k l : Int} (h : k < l) : some Ordering.lt = some (compare k l) := by
  rw [Int.compare_eq_lt.2 h]

theorem some_compare_of_gt {k l : Int} (h : l < k) : some Ordering.gt = some (compare k l) := by
  rw [Int.compare_eq_gt.2 h]

theorem compare_eq {a b : UnpackedFloat} (ha : IsDouble a) (hb : IsDouble b) :
    UnpackedFloat.compare a b = (steps? a).bind fun k => (steps? b).map (compare k) := by
  cases a with
  | notANumber => rfl
  | zero s =>
    cases b with
    | notANumber => rfl
    | zero t => rfl
    | infinity t => cases t <;> rfl
    | finite t n f hn =>
      obtain ⟨hpos, -⟩ := steps_bounds hn hb
      cases t with
      | positive => exact some_compare_of_lt hpos
      | negative => exact some_compare_of_gt (neg_lt_zero.2 hpos)
  | infinity s =>
    cases b with
    | notANumber => cases s <;> rfl
    | zero t => cases s <;> rfl
    | infinity t => cases s <;> cases t <;> rfl
    | finite t n f hn =>
      have hrange := steps_range t hn hb
      cases s with
      | positive => exact some_compare_of_gt hrange.2
      | negative => exact some_compare_of_lt hrange.1
  | finite s m e hm =>
    obtain ⟨hpos, -⟩ := steps_bounds hm ha
    cases b with
    | notANumber => cases s <;> rfl
    | zero t =>
      cases s with
      | positive => exact some_compare_of_gt hpos
      | negative => exact some_compare_of_lt (neg_lt_zero.2 hpos)
    | infinity t =>
      have hrange := steps_range s hm ha
      cases t with
      | positive => cases s <;> exact some_compare_of_lt hrange.2
      | negative => cases s <;> exact some_compare_of_gt hrange.1
    | finite t n f hn =>
      obtain ⟨hpos', -⟩ := steps_bounds hn hb
      cases s with
      | positive =>
        cases t with
        | positive => exact congrArg some (compare_steps ha hb)
        | negative => exact some_compare_of_gt ((neg_lt_zero.2 hpos').trans hpos)
      | negative =>
        cases t with
        | positive => exact some_compare_of_lt ((neg_lt_zero.2 hpos).trans hpos')
        | negative =>
          refine congrArg some ?_
          rw [compare_steps ha hb, ← compare_neg]
          rfl

section Bits

variable (b : BitVec 64)

theorem toNat_unpackMantissa : (@unpackMantissa Format.binary64 b).toNat = b.toNat % 2 ^ 52 := by
  simp [unpackMantissa]

theorem toNat_unpackExponent : (@unpackExponent Format.binary64 b).toNat = b.toNat / 2 ^ 52 % 2 ^ 11 := by
  simp [unpackExponent, Nat.shiftRight_eq_div_pow]

theorem toNat_unpackSign : (@unpackSign Format.binary64 b).toNat = b.toNat / 2 ^ 63 := by
  have hlt := b.isLt
  simp [unpackSign, Nat.shiftRight_eq_div_pow]
  omega

theorem toNat_leadingBit (v : BitVec 52) : (1#1 ++ v).toNat = 2 ^ 52 + v.toNat := by
  rw [BitVec.toNat_append, ← Nat.shiftLeft_add_eq_or_of_lt v.isLt]
  rfl

def signOf : Sign := if b.toNat < 2 ^ 63 then .positive else .negative

theorem ofBitVec_unpackSign : Sign.ofBitVec (@unpackSign Format.binary64 b) = signOf b := by
  have hlt := b.isLt
  simp only [Sign.ofBitVec, signOf, ← BitVec.toNat_inj, toNat_unpackSign, BitVec.toNat_ofNat]
  split <;> split <;> first | rfl | omega

theorem unpack_bits :
    IsDouble (unpack Format.binary64 b) ∧
      ∀ k, steps? (unpack Format.binary64 b) = some k → k = (signOf b).apply (b.toNat % 2 ^ 63 : Nat) := by
  have hmantissa := toNat_unpackMantissa b
  have hexponent := toNat_unpackExponent b
  have hbias : Format.binary64.exponentBias = 1023 := rfl
  have hones : (-1#11).toNat = 2047 := rfl
  have hzeros : ∀ w, (0#w).toNat = 0 := fun w => rfl
  simp only [UnpackedFloat.unpack, ofBitVec_unpackSign, ← BitVec.toNat_inj, hexponent, hbias, hones, hzeros]
  split
  · split
    · refine ⟨trivial, ?_⟩
      rintro k ⟨rfl⟩
      congr 1
      omega
    · exact ⟨trivial, nofun⟩
  · split
    · split
      · have hnothing : b.toNat % 2 ^ 63 = 0 := by omega
        refine ⟨trivial, ?_⟩
        rintro k ⟨rfl⟩
        rw [hnothing]
        cases signOf b <;> rfl
      · refine ⟨?_, ?_⟩
        · rw [IsDouble, hmantissa]
          constructor <;> omega
        · rintro k ⟨rfl⟩
          congr 1
          omega
    · refine ⟨?_, ?_⟩
      · rw [IsDouble, toNat_leadingBit, hmantissa]
        constructor <;> omega
      · rintro k ⟨rfl⟩
        congr 1
        rw [toNat_leadingBit, hmantissa]
        omega

end Bits

section Order

variable {x y z : Float}

theorem le_iff_steps : x ≤ y ↔
    ∃ k l, steps? x.toModel.unpack = some k ∧ steps? y.toModel.unpack = some l ∧ k ≤ l := by
  have hle : x ≤ y ↔ (UnpackedFloat.compare x.toModel.unpack y.toModel.unpack).any (·.isLE) :=
    decide_eq_true_iff
  have hdouble : ∀ u : Float, IsDouble u.toModel.unpack := fun u => (unpack_bits _).1
  rw [hle, compare_eq (hdouble x) (hdouble y)]
  cases steps? x.toModel.unpack <;> cases steps? y.toModel.unpack <;> simp [Int.isLE_compare]

theorem steps_eq {k : Int} (h : steps? x.toModel.unpack = some k) :
    k = if x.toBits.toNat < 2 ^ 63 then (x.toBits.toNat : Int) else -(x.toBits.toNat - 2 ^ 63) := by
  have hlt : x.toBits.toNat < 2 ^ 64 := x.toBits.toBitVec.isLt
  have hk : k = (signOf x.toBits.toBitVec).apply (x.toBits.toNat % 2 ^ 63 : Nat) := (unpack_bits _).2 k h
  have hsign : signOf x.toBits.toBitVec = if x.toBits.toNat < 2 ^ 63 then .positive else .negative := rfl
  rw [hk, hsign]
  split <;> simp only [Sign.apply] <;> omega

theorem le_trans (hxy : x ≤ y) (hyz : y ≤ z) : x ≤ z := by
  obtain ⟨k, l, hk, hl, hkl⟩ := le_iff_steps.1 hxy
  obtain ⟨l', n, hl', hn, hln⟩ := le_iff_steps.1 hyz
  cases hl.symm.trans hl'
  exact le_iff_steps.2 ⟨k, n, hk, hn, hkl.trans hln⟩

theorem le_self (h : x ≤ y) : y ≤ y := by
  obtain ⟨-, l, -, hl, -⟩ := le_iff_steps.1 h
  exact le_iff_steps.2 ⟨l, l, hl, hl, le_rfl⟩

theorem le_of_orderKey (hx : x ≤ x) (hy : y ≤ y) (h : orderKey x ≤ orderKey y) : x ≤ y := by
  obtain ⟨k, -, hk, -⟩ := le_iff_steps.1 hx
  obtain ⟨l, -, hl, -⟩ := le_iff_steps.1 hy
  refine le_iff_steps.2 ⟨k, l, hk, hl, ?_⟩
  rw [steps_eq hk, steps_eq hl]
  simp only [orderKey, show Word.half = 2 ^ 63 from rfl] at h
  split_ifs at h ⊢ <;> omega

end Order

end TestTwins.Double

namespace TestTwins

instance : LawfulRanked Float where
  rank_trans x y z hxy hyz := decide_eq_true ((of_decide_eq_true hxy).trans (of_decide_eq_true hyz))
  rank_total x y := by simpa [Ranked.notAbove] using Int.le_total (orderKey x) (orderKey y)
  le_trans _ _ _ := Double.le_trans
  le_self _ _ := Double.le_self
  le_of_rank _ _ hx hy h := Double.le_of_orderKey hx hy (of_decide_eq_true h)

end TestTwins
