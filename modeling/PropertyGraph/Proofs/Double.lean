import Mathlib
import PropertyGraph.Word

/-!
# Doubles of large integers

An integer that fits 64 bits only without a sign is kept as the double nearest to it, and that is a
finite one. Rounding moves the exponent up to where the mantissa has its bits, which for these integers
is nowhere near the largest exponent.

## Main results

- `isFinite_ofNat_of_large`
-/

namespace PropertyGraph

open Float.Model Float.Model.UnpackedFloat

theorem mantissa_shiftRight_le (em : ExtendedMantissa) (n : Nat) : (em >>> n).mantissa ≤ em.mantissa := by
  change (Nat.repeat ExtendedMantissa.shiftRightOne n em).mantissa ≤ em.mantissa
  induction n with
  | zero => exact Nat.le_refl _
  | succ n ih => exact Nat.le_trans (Nat.div_le_self _ _) ih

theorem roundedMantissa_le (em : ExtendedMantissa) : em.roundedMantissa ≤ em.mantissa + 1 := by
  unfold ExtendedMantissa.roundedMantissa Accuracy.roundToNearestEven
  split <;> omega

theorem mantissa_ofMantissaAndAccuracy (m : Nat) (a : Accuracy) :
    (ExtendedMantissa.ofMantissaAndAccuracy m a).mantissa = m := by
  unfold ExtendedMantissa.ofMantissaAndAccuracy
  split <;> rfl

theorem log2_le {m k : Nat} (h : m < 2 ^ (k + 1)) : m.log2 ≤ k := by
  by_cases hm : m = 0
  · subst hm
    exact Nat.zero_le k
  · exact Nat.le_of_lt_succ ((Nat.log2_lt hm).2 h)

/-- Shifting a mantissa of few bits to its place leaves a small exponent. -/
theorem shiftToTargetExponent_le {m k : Nat} {e b : Int} (a : Accuracy) (hm : m < 2 ^ (k + 1))
    (he : e ≤ b) (hb : k + e - 52 ≤ b) (hmin : -1074 ≤ b) :
    (shiftToTargetExponent .binary64 m e a).2 ≤ b ∧
      (shiftToTargetExponent .binary64 m e a).1.mantissa ≤ m := by
  have hlog := log2_le hm
  constructor
  · change e + ((max (((m.log2 : Nat) : Int) + 1 + e - 53) (-1074) - e).toNat : Int) ≤ b
    omega
  · exact Nat.le_trans (mantissa_shiftRight_le _ _)
      (Nat.le_of_eq (mantissa_ofMantissaAndAccuracy m a))

/-- What is rounded from a mantissa of few bits has a small exponent. -/
theorem roundWithAccuracy_finite {s : Sign} {m : Nat} (hm : m < 2 ^ 117) :
    (roundWithAccuracy .binary64 s m (-53) .exact).isFinite = true ∧
      ∀ s' m' e h, roundWithAccuracy .binary64 s m (-53) .exact = .finite s' m' e h → e ≤ 76 := by
  obtain ⟨he, hmantissa⟩ :=
    shiftToTargetExponent_le (e := (-53 : Int)) (b := (11 : Int)) .exact hm (by omega) (by omega) (by omega)
  have hrounded := roundedMantissa_le (shiftToTargetExponent .binary64 m (-53) .exact).1
  have hm' : (shiftToTargetExponent .binary64 m (-53) .exact).1.roundedMantissa < 2 ^ 118 := by
    omega
  have he' := (shiftToTargetExponent_le (b := (76 : Int)) .exact hm' (Int.le_trans he (by omega))
    (by omega) (by omega)).1
  unfold roundWithAccuracy
  dsimp only
  split
  · refine ⟨rfl, fun s' m' e h heq => ?_⟩
    cases heq
  · refine ⟨rfl, fun s' m' e h heq => ?_⟩
    cases heq
    exact he'

theorem isFinite_pack {x : UnpackedFloat} (h : x.isFinite = true)
    (hsmall : ∀ s m e hm, x = .finite s m e hm → e ≤ 900) : (Float.Model.pack x).isFinite = true := by
  have hunpack {b : BitVec 64} (hexponent : @unpackExponent .binary64 b ≠ -1#11) :
      (UnpackedFloat.unpack .binary64 b).isFinite = true := by
    unfold UnpackedFloat.unpack
    dsimp only
    rw [if_neg hexponent]
    split
    · split <;> rfl
    · rfl
  refine hunpack ?_
  change unpackExponent (UnpackedFloat.pack .binary64 x) ≠ _
  cases x with
  | notANumber | infinity => cases h
  | zero s =>
    change unpackExponent (packComponents .binary64 s _ _) ≠ _
    rw [unpackExponent_packComponents]
    decide
  | finite s m e hm =>
    have he := hsmall s m e hm rfl
    unfold UnpackedFloat.pack
    dsimp only
    rw [if_neg (by change ¬ 2048 ≤ (e + 1023 + 52).toNat + 1; omega)]
    split
    · rw [unpackExponent_packComponents]
      change BitVec.ofNat 11 (e + 1023 + 52).toNat ≠ _
      intro heq
      have htoNat := congrArg BitVec.toNat heq
      rw [BitVec.toNat_ofNat] at htoNat
      change (e + 1023 + 52).toNat % 2048 = 2047 at htoNat
      omega
    · rw [unpackExponent_packComponents]
      decide

theorem ofScientific_zero {m : Nat} (hm : m ≠ 0) :
    UnpackedFloat.ofScientific .binary64 m 0 =
      roundWithAccuracy .binary64 .positive (m <<< 53 * 1) (-53) .exact := by
  unfold UnpackedFloat.ofScientific
  rw [dif_neg hm, if_neg (by decide), if_neg, if_pos (Int.le_refl 0)]
  · rfl
  · change ¬(0 : Int) < -(2 ^ 11 + (m.log2 : Nat))
    omega

/-- The double nearest to an integer that fits 64 bits only without a sign is finite. -/
theorem isFinite_ofNat_of_large {n : Nat} (hlarge : int64Bound ≤ n) (hn : n < 2 ^ 64) :
    (Float.ofNat n).isFinite = true := by
  have hbound : ¬(n < 2 ^ 53 ∧ 0 ≤ 22) := by
    unfold int64Bound at hlarge
    omega
  have hbits : n <<< 53 * 1 < 2 ^ 117 := by
    rw [Nat.shiftLeft_eq]
    omega
  obtain ⟨hfinite, hsmall⟩ := roundWithAccuracy_finite (s := .positive) hbits
  change (Float.ofScientific n false 0).isFinite = true
  unfold Float.ofScientific
  rw [dif_neg hbound]
  change (Float.Model.pack (UnpackedFloat.ofScientific .binary64 n 0)).isFinite = true
  rw [ofScientific_zero (by omega)]
  exact isFinite_pack hfinite fun s m e hm heq => Int.le_trans (hsmall s m e hm heq) (by decide)

end PropertyGraph
