import TestTwins.Proofs.DoubleBounds

namespace TestTwins

class LawfulRatio (K : Type) [Scalar K] : Prop where
  ratio_self : ∀ n, 0 < n → n < Word.count → (Scalar.ratio n n : K) = Scalar.one

instance : LawfulRatio Rat where
  ratio_self n hn _ := by
    change (n : Rat) / n = ((1 : Nat) : Rat)
    rw [div_self (Nat.cast_ne_zero.2 hn.ne'), Nat.cast_one]

namespace Double

open Float.Model Float.Model.UnpackedFloat

def IsProper : UnpackedFloat → Prop
  | .finite _ _ _ _ => True
  | _ => False

theorem unpack_ofNat {n : Nat} (hn : 0 < n) (hword : n < Word.count) :
    IsProper (Float.Model.ofNat n).unpack := by
  obtain ⟨v, hv, herror⟩ := denotes_ofNat hword
  cases hunpack : (Float.Model.ofNat n).unpack with
  | finite => trivial
  | zero s =>
    rw [hunpack] at hv
    cases hv
    have hone : (1 : ℚ) ≤ n := Nat.one_le_cast.2 hn
    have hlow := (abs_le.1 herror).1
    linarith
  | _ =>
    rw [hunpack] at hv
    cases hv

theorem divCore_self {m : Nat} (e : Int) (h : 0 < m) :
    divCore Format.binary64 m e m e = (2 ^ 53, -53, .exact) := by
  have hexp : min (e - e) (Format.binary64.targetExponent (totalExponent m e - totalExponent m e)) =
      -53 := by
    rw [Int.sub_self, Int.sub_self]
    decide
  have hshift : (e - e - -53).toNat = 53 := by omega
  simp only [divCore, hexp, hshift]
  rw [Nat.shiftLeft_eq, Nat.mul_div_cancel_left _ h, Nat.mul_mod_right]
  rfl

theorem div_self_eq {x : Float.Model} (hx : IsProper x.unpack) : x / x = Float.Model.ofNat 1 := by
  change Float.Model.pack (UnpackedFloat.div Format.binary64 x.unpack x.unpack) = _
  cases hunpack : x.unpack with
  | finite s m e h =>
    have hsign : s / s = .positive := by cases s <;> rfl
    simp only [UnpackedFloat.div, divCore_self e h, hsign]
    decide
  | infinity s => simp [hunpack, IsProper] at hx
  | notANumber => simp [hunpack, IsProper] at hx
  | zero s => simp [hunpack, IsProper] at hx

end Double

instance : LawfulRatio Float where
  ratio_self n hn hword := by
    have hself := Double.div_self_eq (Double.unpack_ofNat hn hword)
    change Float.ofModel (Float.Model.ofNat n.toUInt64.toNat / Float.Model.ofNat n.toUInt64.toNat) =
      Float.ofModel (Float.Model.ofNat 1)
    rw [Double.toNat_toUInt64 hword, hself]

end TestTwins
