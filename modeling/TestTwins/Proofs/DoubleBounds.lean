import Mathlib
import TestTwins.Scalar
import TestTwins.Word

/-! Doubles as fractions. A double that is not negative denotes a fraction, and an operation on two such
doubles denotes what the operation on the fractions gives, but for the digits lost in rounding: one part
in `2 ^ 52`. Bounds on the fractions then carry over to whole expressions. -/

namespace TestTwins.Double

open Float.Model Float.Model.UnpackedFloat

/-- The digits of `m * 2 ^ e` as a double keeps them: 53 of them, or fewer for the smallest numbers. -/
structure IsWritten (m : Nat) (e : Int) : Prop where
  digits : m < 2 ^ 53
  least : -1074 ≤ e
  greatest : e ≤ 971
  normal : 2 ^ 52 ≤ m ∨ e = -1074

instance (m : Nat) (e : Int) : Decidable (IsWritten m e) :=
  decidable_of_iff (m < 2 ^ 53 ∧ -1074 ≤ e ∧ e ≤ 971 ∧ (2 ^ 52 ≤ m ∨ e = -1074))
    ⟨fun ⟨a, b, c, d⟩ => ⟨a, b, c, d⟩, fun ⟨a, b, c, d⟩ => ⟨a, b, c, d⟩⟩

inductive Denotes : UnpackedFloat → ℚ → Prop
  | zero : Denotes (.zero .positive) 0
  | finite {m : Nat} {e : Int} (h : 0 < m) (hw : IsWritten m e) :
    Denotes (.finite .positive m e h) (m * 2 ^ e)

/-- The number denotes `v` but for one rounding. -/
def Rounds (x : UnpackedFloat) (v : ℚ) : Prop :=
  ∃ q, Denotes x q ∧ |q - v| ≤ (v + 1) / 2 ^ 52

theorem Denotes.nonneg {x : UnpackedFloat} {q : ℚ} (h : Denotes x q) : 0 ≤ q := by
  cases h with
  | zero => exact le_refl 0
  | finite => positivity

def value? : UnpackedFloat → Option ℚ
  | .zero _ => some 0
  | .finite .positive m e _ => some (m * 2 ^ e)
  | .finite .negative m e _ => some (-(m * 2 ^ e))
  | _ => none

theorem Denotes.value? {x : UnpackedFloat} {q : ℚ} (h : Denotes x q) : value? x = some q := by
  cases h <;> rfl

def digits? : UnpackedFloat → Option (Nat × Int)
  | .finite .positive m e _ => some (m, e)
  | _ => none

theorem denotes_of_digits {x : UnpackedFloat} {m : Nat} {e : Int} (h : digits? x = some (m, e))
    (hw : IsWritten m e) : Denotes x (m * 2 ^ e) := by
  fun_cases digits? x with
  | case1 n f hn =>
    cases h
    exact .finite hn hw
  | case2 => simp_all [digits?]

section Rounding

theorem shiftRight_mantissa (em : ExtendedMantissa) (k : Nat) :
    (em >>> k).mantissa = em.mantissa / 2 ^ k := by
  induction k with
  | zero => exact (Nat.div_one _).symm
  | succ k ih =>
    change (em >>> k).mantissa / 2 = _
    rw [ih, Nat.div_div_eq_div_mul, Nat.pow_succ]

theorem ofMantissaAndAccuracy_mantissa (m : Nat) (acc : Accuracy) :
    (ExtendedMantissa.ofMantissaAndAccuracy m acc).mantissa = m := by
  rcases acc with _ | (_ | _ | _) <;> rfl

theorem roundedMantissa_bounds (em : ExtendedMantissa) :
    em.mantissa ≤ em.roundedMantissa ∧ em.roundedMantissa ≤ em.mantissa + 1 := by
  rcases em with ⟨m, _ | _, _ | _⟩ <;>
    simp only [ExtendedMantissa.roundedMantissa, ExtendedMantissa.accuracy,
      Accuracy.roundToNearestEven] <;> omega

theorem targetExponent_eq (m : Nat) (e : Int) :
    Format.binary64.targetExponent (totalExponent m e) = max (m.log2 + e - 52) (-1074) := by
  simp only [Format.targetExponent, totalExponent, Format.mantissaBits, Format.minExponent]
  omega

def excess (m : Nat) (e : Int) : Nat := (max (m.log2 + e - 52) (-1074) - e).toNat

def trim (m : Nat) (e : Int) : UnpackedFloat :=
  if h : m / 2 ^ excess m e = 0 then .zero .positive
  else .finite .positive (m / 2 ^ excess m e) (e + excess m e) (Nat.pos_of_ne_zero h)

theorem shiftToTargetExponent_eq (m : Nat) (e : Int) (acc : Accuracy) :
    shiftToTargetExponent Format.binary64 m e acc =
      (ExtendedMantissa.ofMantissaAndAccuracy m acc >>> excess m e, e + excess m e) := by
  simp only [shiftToTargetExponent, shiftToExponent, targetExponent_eq, excess]

theorem roundWithAccuracy_eq_trim (m : Nat) (e : Int) (acc : Accuracy) :
    ∃ r, m / 2 ^ excess m e ≤ r ∧ r ≤ m / 2 ^ excess m e + 1 ∧
      roundWithAccuracy Format.binary64 .positive m e acc = trim r (e + excess m e) := by
  have hbounds := roundedMantissa_bounds
    (ExtendedMantissa.ofMantissaAndAccuracy m acc >>> excess m e)
  simp only [shiftRight_mantissa, ofMantissaAndAccuracy_mantissa] at hbounds
  refine ⟨_, hbounds.1, hbounds.2, ?_⟩
  simp only [roundWithAccuracy, shiftToTargetExponent_eq, shiftRight_mantissa,
    ofMantissaAndAccuracy_mantissa]
  rfl

theorem log2_le_of_lt {m k : Nat} (h : m < 2 ^ (k + 1)) : m.log2 ≤ k := by
  rcases m.eq_zero_or_pos with rfl | hm
  · exact Nat.zero_le k
  · exact Nat.le_of_lt_succ ((Nat.log2_lt hm.ne').2 h)

theorem denotes_trim {r : Nat} {t : Int} (hr : r ≤ 2 ^ 53) (hleast : -1074 ≤ t) (hgreatest : t ≤ 970)
    (hnormal : 2 ^ 52 ≤ r ∨ t = -1074) : Denotes (trim r t) (r * 2 ^ t) := by
  rcases hr.lt_or_eq with hlt | rfl
  · have hlog : r.log2 ≤ 52 := log2_le_of_lt hlt
    have hexcess : excess r t = 0 := by
      rw [excess]
      omega
    rcases r.eq_zero_or_pos with rfl | hpos
    · rw [trim, dif_pos (Nat.zero_div _), Nat.cast_zero, zero_mul]
      exact .zero
    · simp only [trim, hexcess, Nat.pow_zero, Nat.div_one, dif_neg hpos.ne', Nat.cast_zero, add_zero]
      exact .finite hpos ⟨hlt, hleast, by omega, hnormal⟩
  · have hexcess : excess (2 ^ 53) t = 1 := by
      rw [excess, Nat.log2_two_pow]
      omega
    have hvalue : ((2 ^ 53 : Nat) : ℚ) * 2 ^ t = (2 ^ 52 : Nat) * 2 ^ (t + 1) := by
      rw [zpow_add_one₀ two_ne_zero]
      push_cast
      ring
    simp only [trim, hexcess]
    rw [dif_neg (by decide), hvalue]
    exact .finite _ ⟨by decide, by omega, by omega, .inl (le_refl _)⟩

variable {m : Nat} {e : Int}

theorem two_zpow_log2_le (hm : 0 < m) : (2 : ℚ) ^ (m.log2 + e) ≤ m * 2 ^ e := by
  rw [zpow_add₀ two_ne_zero, zpow_natCast]
  have h : ((2 ^ m.log2 : Nat) : ℚ) ≤ m := Nat.cast_le.2 (Nat.log2_self_le hm.ne')
  push_cast at h
  gcongr

theorem abs_sub_le_of_shift {k r : Nat} (hlow : m / 2 ^ k ≤ r) (hhigh : r ≤ m / 2 ^ k + 1) :
    |(r : ℚ) * 2 ^ (e + k) - m * 2 ^ e| ≤ 2 ^ (e + k) := by
  have hle : r * 2 ^ k ≤ m + 2 ^ k := by
    calc r * 2 ^ k ≤ (m / 2 ^ k + 1) * 2 ^ k := Nat.mul_le_mul_right _ hhigh
      _ = m / 2 ^ k * 2 ^ k + 2 ^ k := Nat.succ_mul _ _
      _ ≤ m + 2 ^ k := Nat.add_le_add_right (Nat.div_mul_le_self m _) _
  have hge : m ≤ r * 2 ^ k + 2 ^ k := by
    calc m ≤ m / 2 ^ k * 2 ^ k + 2 ^ k := (Nat.lt_div_mul_add (Nat.two_pow_pos k)).le
      _ ≤ r * 2 ^ k + 2 ^ k := Nat.add_le_add_right (Nat.mul_le_mul_right _ hlow) _
  have hle' : (r : ℚ) * 2 ^ k ≤ m + 2 ^ k := by exact_mod_cast hle
  have hge' : (m : ℚ) ≤ r * 2 ^ k + 2 ^ k := by exact_mod_cast hge
  have hsplit : (2 : ℚ) ^ (e + k) = 2 ^ k * 2 ^ e := by
    rw [zpow_add₀ two_ne_zero, zpow_natCast, mul_comm]
  have hpos : (0 : ℚ) < 2 ^ e := by positivity
  rw [hsplit, abs_le]
  constructor <;> nlinarith

theorem div_excess_lt (m : Nat) (e : Int) : m / 2 ^ excess m e < 2 ^ 53 := by
  have hexcess : m.log2 ≤ 52 + excess m e := by
    rw [excess]
    omega
  rw [Nat.div_lt_iff_lt_mul (Nat.two_pow_pos _), ← Nat.pow_add]
  exact Nat.lt_log2_self.trans_le (Nat.pow_le_pow_right (by decide) (by omega))

section Fine

-- There are digits enough to fill a double, or down to the last that a double can have.
variable (hfine : 52 ≤ m.log2 ∨ e ≤ -1074)

include hfine

theorem add_excess : e + excess m e = max (m.log2 + e - 52) (-1074) := by
  rw [excess]
  omega

theorem pos_of_excess (h : e + excess m e ≠ -1074) : 0 < m := by
  apply Nat.pos_of_ne_zero
  rintro rfl
  rw [add_excess hfine] at h
  rw [Nat.log2_zero] at hfine h
  omega

theorem le_div_excess (h : e + excess m e ≠ -1074) : 2 ^ 52 ≤ m / 2 ^ excess m e := by
  have htarget := add_excess hfine
  rw [Nat.le_div_iff_mul_le (Nat.two_pow_pos _), ← Nat.pow_add]
  exact (Nat.pow_le_pow_right (by decide) (by omega)).trans
    (Nat.log2_self_le (pos_of_excess hfine h).ne')

theorem two_zpow_excess_le : (2 : ℚ) ^ (e + excess m e) ≤ (m * 2 ^ e + 1) / 2 ^ 52 := by
  have htarget := add_excess hfine
  have hpos : (0 : ℚ) ≤ m * 2 ^ e := by positivity
  rw [le_div_iff₀ (by positivity), ← zpow_natCast, ← zpow_add₀ two_ne_zero]
  by_cases h : e + excess m e = -1074
  · have hone : (2 : ℚ) ^ (e + excess m e + (52 : Nat)) ≤ 1 :=
      zpow_le_one_of_nonpos₀ one_le_two (by omega)
    linarith
  · have hexp : e + excess m e + (52 : Nat) = m.log2 + e := by omega
    rw [hexp]
    linarith [two_zpow_log2_le (e := e) (pos_of_excess hfine h)]

theorem log2_add_le (hrange : (m : ℚ) * 2 ^ e ≤ 2 ^ 100) : m.log2 + e ≤ 100 := by
  rcases m.eq_zero_or_pos with rfl | hm
  · rw [Nat.log2_zero] at hfine ⊢
    omega
  · have h := (two_zpow_log2_le hm).trans hrange
    exact (zpow_le_zpow_iff_right₀ (one_lt_two (α := ℚ))).1 (by exact_mod_cast h)

theorem rounds_roundWithAccuracy (acc : Accuracy) (hrange : (m : ℚ) * 2 ^ e ≤ 2 ^ 100) :
    Rounds (roundWithAccuracy Format.binary64 .positive m e acc) (m * 2 ^ e) := by
  obtain ⟨r, hlow, hhigh, hround⟩ := roundWithAccuracy_eq_trim m e acc
  have htarget := add_excess hfine
  have hlog := log2_add_le hfine hrange
  have hdigits := div_excess_lt m e
  have hnormal : 2 ^ 52 ≤ r ∨ e + excess m e = -1074 := by
    by_cases h : e + excess m e = -1074
    · exact .inr h
    · exact .inl ((le_div_excess hfine h).trans hlow)
  rw [hround]
  exact ⟨_, denotes_trim (by omega) (by omega) (by omega) hnormal,
    (abs_sub_le_of_shift hlow hhigh).trans (two_zpow_excess_le hfine)⟩

end Fine

theorem decreaseExponent_value (m : Nat) (e t : Int) :
    ((decreaseExponent m e t).1 : ℚ) * 2 ^ (decreaseExponent m e t).2 = m * 2 ^ e := by
  simp only [decreaseExponent, Nat.shiftLeft_eq]
  rw [zpow_sub₀ two_ne_zero, zpow_natCast]
  push_cast
  field_simp

theorem log2_shiftLeft (hm : 0 < m) (k : Nat) : (m <<< k).log2 = m.log2 + k := by
  rw [Nat.log2_eq_iff (Nat.shiftLeft_pos_iff.2 hm).ne', Nat.shiftLeft_eq, Nat.add_right_comm,
    Nat.pow_add, Nat.pow_add _ (m.log2 + 1)]
  exact ⟨Nat.mul_le_mul_right _ (Nat.log2_self_le hm.ne'),
    Nat.mul_lt_mul_of_pos_right Nat.lt_log2_self (Nat.two_pow_pos k)⟩

theorem rounds_round (hm : 0 < m) (hrange : (m : ℚ) * 2 ^ e ≤ 2 ^ 100) :
    Rounds (UnpackedFloat.round Format.binary64 .positive m e) (m * 2 ^ e) := by
  simp only [UnpackedFloat.round, targetExponent_eq]
  rw [← decreaseExponent_value m e (max (m.log2 + e - 52) (-1074))] at hrange ⊢
  refine rounds_roundWithAccuracy ?_ .exact hrange
  simp only [decreaseExponent, log2_shiftLeft hm]
  omega

theorem rounds_normalize (n : Nat) (e : Int) (hrange : (n : ℚ) * 2 ^ e ≤ 2 ^ 100) :
    Rounds (UnpackedFloat.normalize Format.binary64 n e .positive) (n * 2 ^ e) := by
  rcases n.eq_zero_or_pos with rfl | hn
  · refine ⟨0, .zero, ?_⟩
    norm_num
  · rw [UnpackedFloat.normalize, Int.compare_eq_gt.2 (by omega)]
    exact rounds_round hn hrange

end Rounding

theorem unpackSign_packComponents {spec : Format} {sign : Sign} {exponent : BitVec spec.exponentBits}
    {mantissa : BitVec spec.mantissaBitsWithoutImplicit} :
    unpackSign (packComponents spec sign exponent mantissa) = sign.toBitVec := by
  ext i hi
  obtain rfl : i = 0 := Nat.lt_one_iff.1 hi
  simp [unpackSign, packComponents, BitVec.getLsbD_append, BitVec.getElem_append]

theorem toNat_leading {m : Nat} (hfull : 2 ^ 52 ≤ m) (hm : m < 2 ^ 53) :
    (1#1 ++ BitVec.ofNat 52 m).toNat = m := by
  have hrest : (BitVec.ofNat 52 m).toNat = m - 2 ^ 52 := by
    rw [BitVec.toNat_ofNat, Nat.mod_eq_sub_mod hfull, Nat.mod_eq_of_lt (by omega)]
  rw [BitVec.toNat_append, ← Nat.shiftLeft_add_eq_or_of_lt (BitVec.isLt _), hrest]
  exact Nat.add_sub_of_le hfull

theorem unpack_pack {m : Nat} {e : Int} (h : 0 < m) (hw : IsWritten m e) :
    UnpackedFloat.unpack Format.binary64 (UnpackedFloat.pack Format.binary64 (.finite .positive m e h)) =
      .finite .positive m e h := by
  obtain ⟨hdigits, hleast, hgreatest, hnormal⟩ := hw
  have hexp : (e + Format.binary64.exponentBias + Format.binary64.mantissaBitsWithoutImplicit).toNat =
      (e + 1075).toNat := by
    simp only [Format.exponentBias]
    omega
  have hbits : (m.log2 + 1 = Format.binary64.mantissaBits) = (2 ^ 52 ≤ m) := by
    rw [eq_iff_iff, ← Nat.le_log2 h.ne']
    have hlog := log2_le_of_lt hdigits
    simp only [Format.mantissaBits]
    omega
  simp only [UnpackedFloat.pack, hexp, hbits]
  rw [if_neg (by simp; omega)]
  by_cases hfull : 2 ^ 52 ≤ m
  · rw [if_pos hfull]
    have htoNat : (BitVec.ofNat 11 (e + 1075).toNat).toNat = (e + 1075).toNat :=
      Nat.mod_eq_of_lt (by omega)
    have hone : BitVec.ofNat 11 (e + 1075).toNat ≠ -1#11 := by
      rw [ne_eq, ← BitVec.toNat_inj, htoNat]
      simp
      omega
    have hzero : BitVec.ofNat 11 (e + 1075).toNat ≠ 0#11 := by
      rw [ne_eq, ← BitVec.toNat_inj, htoNat]
      simp
      omega
    simp only [UnpackedFloat.unpack, unpackExponent_packComponents, unpackMantissa_packComponents,
      unpackSign_packComponents]
    rw [if_neg hone, if_neg hzero]
    have hbias : ((e + 1075).toNat : Int) - (Format.binary64.exponentBias + (52 : Nat)) = e := by
      simp only [Format.exponentBias]
      omega
    simp only [htoNat, toNat_leading hfull hdigits, hbias]
    rfl
  · rw [if_neg hfull]
    obtain rfl := hnormal.resolve_left hfull
    have htoNat : (BitVec.ofNat 52 m).toNat = m := Nat.mod_eq_of_lt (by omega)
    have hmantissa : BitVec.ofNat 52 m ≠ 0#52 := by
      rw [ne_eq, ← BitVec.toNat_inj, htoNat]
      exact h.ne'
    simp only [UnpackedFloat.unpack, unpackExponent_packComponents, unpackMantissa_packComponents,
      unpackSign_packComponents]
    rw [if_neg (by decide), if_pos trivial, dif_neg hmantissa]
    simp only [htoNat]
    rfl

theorem Denotes.pack {x : UnpackedFloat} {q : ℚ} (h : Denotes x q) :
    Denotes (Float.Model.pack x).unpack q := by
  change Denotes (UnpackedFloat.unpack Format.binary64 (UnpackedFloat.pack Format.binary64 x)) q
  cases h with
  | zero => exact .zero
  | finite h hw =>
    rw [unpack_pack h hw]
    exact .finite h hw

theorem Denotes.rounds {x : UnpackedFloat} {q : ℚ} (h : Denotes x q) : Rounds x q := by
  have hq := h.nonneg
  refine ⟨q, h, ?_⟩
  rw [sub_self, abs_zero]
  positivity

section Operations

variable {a b : UnpackedFloat} {x y : ℚ}

theorem Denotes.mul (ha : Denotes a x) (hb : Denotes b y) (hrange : x * y ≤ 2 ^ 100) :
    Rounds (UnpackedFloat.mul Format.binary64 a b) (x * y) := by
  cases ha with
  | zero =>
    rw [zero_mul]
    cases hb with
    | zero => exact Denotes.zero.rounds
    | finite => exact Denotes.zero.rounds
  | @finite m e hm hw =>
    cases hb with
    | zero =>
      rw [mul_zero]
      exact Denotes.zero.rounds
    | @finite n f hn hv =>
      have hvalue : (m : ℚ) * 2 ^ e * (n * 2 ^ f) = (m * n : Nat) * 2 ^ (e + f) := by
        rw [zpow_add₀ two_ne_zero]
        push_cast
        ring
      rw [hvalue] at hrange ⊢
      refine rounds_roundWithAccuracy ?_ .exact hrange
      rw [Nat.le_log2 (Nat.mul_pos hm hn).ne']
      rcases hw.normal with h | h
      · exact .inl (h.trans (Nat.le_mul_of_pos_right m hn))
      rcases hv.normal with h' | h'
      · exact .inl (h'.trans (Nat.le_mul_of_pos_left n hm))
      · exact .inr (by omega)

theorem Denotes.add (ha : Denotes a x) (hb : Denotes b y) (hrange : x + y ≤ 2 ^ 100) :
    Rounds (UnpackedFloat.add Format.binary64 a b) (x + y) := by
  cases ha with
  | zero =>
    rw [zero_add]
    cases hb with
    | zero => exact Denotes.zero.rounds
    | finite hn hv => exact (Denotes.finite hn hv).rounds
  | @finite m e hm hw =>
    cases hb with
    | zero =>
      rw [add_zero]
      exact (Denotes.finite hm hw).rounds
    | @finite n f hn hv =>
      let t := min e f
      have hm' := decreaseExponent_value m e t
      have hn' := decreaseExponent_value n f t
      have het : (decreaseExponent m e t).2 = t := by
        simp only [decreaseExponent]
        omega
      have hft : (decreaseExponent n f t).2 = t := by
        simp only [decreaseExponent]
        omega
      rw [het] at hm'
      rw [hft] at hn'
      have hvalue : (m : ℚ) * 2 ^ e + n * 2 ^ f =
          ((decreaseExponent m e t).1 + (decreaseExponent n f t).1 : Nat) * 2 ^ t := by
        push_cast
        rw [add_mul, hm', hn']
      rw [hvalue] at hrange ⊢
      exact rounds_normalize _ t hrange

theorem rounds_ofNat (n : Nat) (hn : (n : ℚ) ≤ 2 ^ 100) :
    Rounds (UnpackedFloat.ofNat Format.binary64 n) n := by
  have h := rounds_normalize n 0
  rw [zpow_zero, mul_one] at h
  exact h hn

theorem quotient_bounds {m n k : Nat} {e f t : Int} (hn : 0 < n) (hk : e = k + (t + f)) :
    ((m <<< k / n : Nat) : ℚ) * 2 ^ t ≤ m * 2 ^ e / (n * 2 ^ f) ∧
      (m : ℚ) * 2 ^ e / (n * 2 ^ f) ≤ (m <<< k / n : Nat) * 2 ^ t + 2 ^ t := by
  have hdividend : (m : ℚ) * 2 ^ e = (m <<< k : Nat) * (2 ^ t * 2 ^ f) := by
    rw [hk, zpow_add₀ two_ne_zero, zpow_add₀ two_ne_zero, zpow_natCast, Nat.shiftLeft_eq]
    push_cast
    ring
  rw [hdividend]
  constructor
  · rw [le_div_iff₀ (by positivity)]
    calc ((m <<< k / n : Nat) : ℚ) * 2 ^ t * (n * 2 ^ f)
        = (m <<< k / n * n : Nat) * (2 ^ t * 2 ^ f) := by push_cast; ring
      _ ≤ (m <<< k : Nat) * (2 ^ t * 2 ^ f) := by gcongr; exact Nat.div_mul_le_self _ n
  · rw [div_le_iff₀ (by positivity)]
    calc ((m <<< k : Nat) : ℚ) * (2 ^ t * 2 ^ f)
        ≤ (m <<< k / n * n + n : Nat) * (2 ^ t * 2 ^ f) := by
          gcongr
          exact (Nat.lt_div_mul_add hn).le
      _ = ((m <<< k / n : Nat) * 2 ^ t + 2 ^ t) * (n * 2 ^ f) := by push_cast; ring

theorem Denotes.div (ha : Denotes a x) (hb : Denotes b y) (hy : 0 < y) (hrange : x / y ≤ 2 ^ 100) :
    ∃ v, v ≤ x / y ∧ x / y ≤ v + (v + 1) / 2 ^ 52 ∧
      Rounds (UnpackedFloat.div Format.binary64 a b) v := by
  cases hb with
  | zero => exact absurd hy (lt_irrefl 0)
  | @finite n f hn hv =>
    cases ha with
    | zero => exact ⟨0, by rw [zero_div], by norm_num, Denotes.zero.rounds⟩
    | @finite m e hm hw =>
      -- The dividend is extended by `k` digits, so that the quotient has 53 of them.
      let t := min (e - f) (Format.binary64.targetExponent (totalExponent m e - totalExponent n f))
      let k := (e - f - t).toNat
      have ht : t = min (e - f) (max ((m.log2 + e) - (n.log2 + f) - 53) (-1074)) := by
        simp only [t, Format.targetExponent, totalExponent, Format.mantissaBits, Format.minExponent]
        omega
      obtain ⟨hvalue, hrest⟩ := quotient_bounds (m := m) (k := k) (e := e) (f := f) (t := t) hn (by omega)
      have hfine : 52 ≤ (m <<< k / n).log2 ∨ t ≤ -1074 := by
        by_cases hmin : t ≤ -1074
        · exact .inr hmin
        · left
          have hlog : n.log2 + 53 ≤ (m <<< k).log2 := by
            rw [log2_shiftLeft hm]
            omega
          have hdigits : 2 ^ 52 ≤ m <<< k / n := by
            rw [Nat.le_div_iff_mul_le hn]
            calc 2 ^ 52 * n ≤ 2 ^ 52 * 2 ^ (n.log2 + 1) := Nat.mul_le_mul_left _ Nat.lt_log2_self.le
              _ = 2 ^ (n.log2 + 53) := by rw [← Nat.pow_add]; congr 1; omega
              _ ≤ m <<< k := (Nat.le_log2 (Nat.shiftLeft_pos_iff.2 hm).ne').1 hlog
          exact (Nat.le_log2 (Nat.two_pow_pos 52 |>.trans_le hdigits).ne').2 hdigits
      have hlast : (2 : ℚ) ^ t ≤ ((m <<< k / n : Nat) * 2 ^ t + 1) / 2 ^ 52 :=
        (zpow_le_zpow_right₀ one_le_two (by omega)).trans (two_zpow_excess_le hfine)
      exact ⟨_, hvalue, hrest.trans (by gcongr),
        rounds_roundWithAccuracy hfine _ (hvalue.trans hrange)⟩

end Operations

def AtMost (x : Float) (q : ℚ) : Prop := ∃ v, Denotes x.toModel.unpack v ∧ v ≤ q

section AtMost

variable {x y : Float} {p q r : ℚ}

theorem AtMost.nonneg (h : AtMost x q) : 0 ≤ q := by
  obtain ⟨v, hv, hle⟩ := h
  exact hv.nonneg.trans hle

theorem AtMost.mono (h : AtMost x p) (hpq : p ≤ q) : AtMost x q := by
  obtain ⟨v, hv, hle⟩ := h
  exact ⟨v, hv, hle.trans hpq⟩

theorem Rounds.atMost {u : UnpackedFloat} {v : ℚ} (h : Rounds u v) (hvq : v ≤ q)
    (hr : q + (q + 1) / 2 ^ 52 ≤ r) : AtMost (Float.ofModel (Float.Model.pack u)) r := by
  obtain ⟨w, hw, herror⟩ := h
  refine ⟨w, hw.pack, ?_⟩
  have hle := (abs_le.1 herror).2
  have hmono : (v + 1) / 2 ^ 52 ≤ (q + 1) / 2 ^ 52 := by gcongr
  linarith

theorem AtMost.mul (hx : AtMost x p) (hy : AtMost y q) (hr : p * q + (p * q + 1) / 2 ^ 52 ≤ r)
    (hrange : p * q ≤ 2 ^ 100) : AtMost (x * y) r := by
  have hp := hx.nonneg
  obtain ⟨v, hv, hvp⟩ := hx
  obtain ⟨w, hw, hwq⟩ := hy
  have hle : v * w ≤ p * q := mul_le_mul hvp hwq hw.nonneg hp
  exact (hv.mul hw (hle.trans hrange)).atMost hle hr

theorem AtMost.add (hx : AtMost x p) (hy : AtMost y q) (hr : p + q + (p + q + 1) / 2 ^ 52 ≤ r)
    (hrange : p + q ≤ 2 ^ 100) : AtMost (x + y) r := by
  obtain ⟨v, hv, hvp⟩ := hx
  obtain ⟨w, hw, hwq⟩ := hy
  have hle : v + w ≤ p + q := add_le_add hvp hwq
  exact (hv.add hw (hle.trans hrange)).atMost hle hr

theorem denotes_ofNat {n : Nat} (hn : n < Word.count) :
    ∃ v, Denotes (Float.Model.ofNat n).unpack v ∧ |v - n| ≤ (n + 1) / 2 ^ 52 := by
  have hrange : (n : ℚ) ≤ 2 ^ 100 := by
    have h : n ≤ 2 ^ 100 := hn.le.trans (by decide)
    exact_mod_cast h
  obtain ⟨v, hv, herror⟩ := rounds_ofNat n hrange
  exact ⟨v, hv.pack, herror⟩

theorem toNat_toUInt64 {n : Nat} (hn : n < Word.count) : n.toUInt64.toNat = n := by
  rw [Nat.toUInt64_eq, UInt64.toNat_ofNat']
  exact Nat.mod_eq_of_lt hn

end AtMost

def Within (x : Float) (q ε : ℚ) : Prop := ∃ v, Denotes x.toModel.unpack v ∧ |v - q| ≤ ε

section Within

variable {x y : Float} {p q r ε δ : ℚ}

theorem Within.atMost (h : Within x q ε) (hr : q + ε ≤ r) : AtMost x r := by
  obtain ⟨v, hv, herror⟩ := h
  exact ⟨v, hv, by linarith [(abs_le.1 herror).2]⟩

theorem Rounds.within {u : UnpackedFloat} {v : ℚ} (h : Rounds u v) (hv : |v - q| ≤ ε)
    (hr : ε + (q + ε + 1) / 2 ^ 52 ≤ δ) : Within (Float.ofModel (Float.Model.pack u)) q δ := by
  obtain ⟨w, hw, herror⟩ := h
  refine ⟨w, hw.pack, ?_⟩
  have hle : v ≤ q + ε := by linarith [(abs_le.1 hv).2]
  calc |w - q| ≤ |w - v| + |v - q| := abs_sub_le w v q
    _ ≤ (v + 1) / 2 ^ 52 + ε := add_le_add herror hv
    _ ≤ (q + ε + 1) / 2 ^ 52 + ε := by gcongr
    _ ≤ δ := by linarith

theorem within_ofNat {n : Nat} (hn : n < Word.count) :
    Within (Scalar.ofNat n) n ((n + 1) / 2 ^ 52) := by
  obtain ⟨v, hv, herror⟩ := denotes_ofNat hn
  change Within (Float.ofModel (Float.Model.ofNat n.toUInt64.toNat)) _ _
  rw [toNat_toUInt64 hn]
  exact ⟨v, hv, herror⟩

theorem atMost_ofNat {n : Nat} (hn : n < Word.count) (hq : n + (n + 1) / 2 ^ 52 ≤ q) :
    AtMost (Scalar.ofNat n) q :=
  (within_ofNat hn).atMost hq

theorem Within.mul (hx : Within x p ε) (hy : Within y q δ) (hq : 0 ≤ q)
    (hr : (p + ε) * δ + q * ε + (p * q + ((p + ε) * δ + q * ε) + 1) / 2 ^ 52 ≤ r)
    (hrange : (p + ε) * (q + δ) ≤ 2 ^ 100) : Within (x * y) (p * q) r := by
  obtain ⟨v, hv, hvp⟩ := hx
  obtain ⟨w, hw, hwq⟩ := hy
  have hle : v ≤ p + ε := by linarith [(abs_le.1 hvp).2]
  have hle' : w ≤ q + δ := by linarith [(abs_le.1 hwq).2]
  have herror : |v * w - p * q| ≤ (p + ε) * δ + q * ε := by
    calc |v * w - p * q| = |v * (w - q) + q * (v - p)| := by congr 1; ring
      _ ≤ |v * (w - q)| + |q * (v - p)| := abs_add_le _ _
      _ = v * |w - q| + q * |v - p| := by rw [abs_mul, abs_mul, abs_of_nonneg hv.nonneg, abs_of_nonneg hq]
      _ ≤ (p + ε) * δ + q * ε := by
        have hp := hv.nonneg.trans hle
        gcongr
  have hproduct : v * w ≤ (p + ε) * (q + δ) := mul_le_mul hle hle' hw.nonneg (hv.nonneg.trans hle)
  exact (hv.mul hw (hproduct.trans hrange)).within herror hr

theorem within_ratio {n m : Nat} (hnm : n ≤ m) (hm : 0 < m) (hword : m < Word.count) :
    Within (Scalar.ratio n m) (n / m) (1 / 10000) := by
  obtain ⟨v, hv, herror⟩ := denotes_ofNat (hnm.trans_lt hword)
  obtain ⟨w, hw, herror'⟩ := denotes_ofNat hword
  rw [abs_le] at herror herror'
  have hle : (n : ℚ) ≤ m := Nat.cast_le.2 hnm
  have hone : (1 : ℚ) ≤ m := Nat.one_le_cast.2 hm
  have hpos : 0 < w := by linarith
  have hshare : (n : ℚ) / m ≤ 1 := div_le_one_of_le₀ hle (by positivity)
  have hnear : |v - n / m * w| ≤ m / 2 ^ 50 := by
    have hsplit : v - n / m * w = v - n + n / m * (m - w) := by field_simp; ring
    have hfactor : |(n : ℚ) / m * (m - w)| ≤ 1 * |m - w| := by
      rw [abs_mul, abs_of_nonneg (by positivity)]
      gcongr
    have hgap : |(m : ℚ) - w| ≤ m / 2 ^ 51 := abs_le.2 ⟨by linarith, by linarith⟩
    have hgap' : |v - n| ≤ m / 2 ^ 51 := abs_le.2 ⟨by linarith, by linarith⟩
    rw [hsplit]
    linarith [abs_add_le (v - n) (n / m * (m - w))]
  have hquotient : |v / w - n / m| ≤ 1 / 2 ^ 49 := by
    have hsplit : v / w - n / m = (v - n / m * w) / w := by field_simp
    rw [hsplit, abs_div, abs_of_pos hpos, div_le_iff₀ hpos]
    linarith
  obtain ⟨hlow, hhigh⟩ := abs_le.1 hquotient
  obtain ⟨u, hu, hu', hrounds⟩ := hv.div hw hpos (by linarith)
  have hbelow : |u - n / m| ≤ 1 / 2 ^ 40 := abs_le.2 ⟨by linarith, by linarith⟩
  change Within (Float.ofModel (Float.Model.ofNat n.toUInt64.toNat /
    Float.Model.ofNat m.toUInt64.toNat)) _ _
  rw [toNat_toUInt64 (hnm.trans_lt hword), toNat_toUInt64 hword]
  exact hrounds.within hbelow (by linarith)

theorem atMost_ratio {n m : Nat} (hnm : n ≤ m) (hm : 0 < m) (hword : m < Word.count) :
    AtMost (Scalar.ratio n m) (n / m + 1 / 1000) :=
  (within_ratio hnm hm hword).atMost (by linarith)

end Within

theorem lt_of_exponent_lt {m n : Nat} {e f : Int} (hm : IsWritten m e) (hn : IsWritten n f)
    (h : e < f) : (m : ℚ) * 2 ^ e < n * 2 ^ f := by
  have hm' : (m : ℚ) < 2 ^ 53 := by exact_mod_cast hm.digits
  have hn' : (2 ^ 52 : ℚ) ≤ n := by
    have hnormal := hn.normal.resolve_right (by have := hm.least; omega)
    exact_mod_cast hnormal
  have hpow : (2 : ℚ) ^ (e + 1) ≤ 2 ^ f := zpow_le_zpow_right₀ one_le_two h
  calc (m : ℚ) * 2 ^ e < 2 ^ 53 * 2 ^ e := by gcongr
    _ = 2 ^ 52 * 2 ^ (e + 1) := by rw [zpow_add_one₀ two_ne_zero]; ring
    _ ≤ n * 2 ^ f := by gcongr

theorem Denotes.le_of_le {a b : UnpackedFloat} {x y : ℚ} (ha : Denotes a x) (hb : Denotes b y)
    (h : UnpackedFloat.le a b = true) : x ≤ y := by
  cases ha with
  | zero => exact hb.nonneg
  | @finite m e hm hw =>
    cases hb with
    | zero => cases h
    | @finite n f hn hv =>
      change ((compare e f).then (compare m n)).isLE = true at h
      rcases lt_trichotomy e f with hlt | rfl | hgt
      · exact (lt_of_exponent_lt hw hv hlt).le
      · have hle : m ≤ n := by simpa [Nat.isLE_compare] using h
        gcongr
      · rw [Int.compare_eq_gt.2 hgt] at h
        cases h

theorem AtMost.not_le {x c : Float} {q v : ℚ} (hx : AtMost x q) (hc : Denotes c.toModel.unpack v)
    (hlt : q < v) : ¬ c ≤ x := by
  intro hle
  obtain ⟨w, hw, hwq⟩ := hx
  have hle' : c.toModel ≤ x.toModel := of_decide_eq_true hle
  exact absurd (hc.le_of_le hw hle') (hwq.trans_lt hlt).not_ge

end TestTwins.Double
