import Colloquy.Value
import Mathlib

/-! Floats that are equal, and finite ones. -/
namespace Colloquy

open Float.Model Float.Model.UnpackedFloat

theorem float_same {x : Float} (finite : x.isFinite = true) : (x == x) = true := by
  change x.toModel.unpack.isFinite = true at finite
  change (x.toModel.unpack.compare x.toModel.unpack == some .eq) = true
  cases value : x.toModel.unpack with
  | infinity s => rw [value] at finite; cases finite
  | notANumber => rw [value] at finite; cases finite
  | zero s => rfl
  | finite s m e positive => cases s <;> simp [UnpackedFloat.compare]

-- Equal floats are one number, or zeros that may differ in sign.
theorem unpacked_same {a b : UnpackedFloat} (same : a.compare b = some .eq) :
    a = b ∨ ∃ s t, a = .zero s ∧ b = .zero t := by
  cases a with
  | infinity s =>
    cases b with
    | infinity t => cases s <;> cases t <;> first | exact .inl rfl | cases same
    | notANumber | zero | finite => cases s <;> cases same
  | notANumber => cases same
  | zero s =>
    cases b with
    | finite t => cases t <;> cases same
    | infinity t => cases t <;> cases same
    | notANumber => cases same
    | zero t => exact .inr ⟨s, t, rfl, rfl⟩
  | finite s m e positive =>
    cases b with
    | finite t m' e' positive' =>
      cases s <;> cases t <;> simp_all [UnpackedFloat.compare, Ordering.then_eq_eq]
    | infinity t => cases s <;> cases t <;> cases same
    | notANumber | zero => cases s <;> cases same

theorem float_same_iff {x y : Float} :
    (x == y) = true ↔ x.toModel.unpack.compare y.toModel.unpack = some .eq := by
  change (x.toModel.unpack.compare y.toModel.unpack == some .eq) = true ↔ _
  exact beq_iff_eq

-- What equals a finite float is finite: zeros of either sign, or the same number.
theorem float_finite_of_same {x y : Float} (finite : x.isFinite = true) (same : (x == y) = true) :
    y.isFinite = true := by
  change x.toModel.unpack.isFinite = true at finite
  change y.toModel.unpack.isFinite = true
  obtain equal | ⟨s, t, _, right⟩ := unpacked_same (float_same_iff.mp same)
  · rwa [← equal]
  · rw [right]
    rfl

theorem float_same_symm {x y : Float} (same : (x == y) = true) : (y == x) = true := by
  rw [float_same_iff] at same ⊢
  obtain equal | ⟨s, t, left, right⟩ := unpacked_same same
  · rwa [equal] at same ⊢
  · rw [left, right]
    rfl

theorem float_same_trans {x y z : Float} (first : (x == y) = true) (second : (y == z) = true) :
    (x == z) = true := by
  rw [float_same_iff] at first second ⊢
  obtain equal | ⟨s, t, left, right⟩ := unpacked_same first
  · rwa [equal]
  · obtain equal | ⟨_, u, _, last⟩ := unpacked_same second
    · rwa [← equal]
    · rw [left, last]
      rfl

def Packable : UnpackedFloat → Prop
  | .zero _ => True
  | .finite _ _ e _ => e ≤ 970
  | .infinity _ | .notANumber => False

theorem packable_exponent {f : UnpackedFloat} (packable : Packable f) :
    unpackExponent (UnpackedFloat.pack .binary64 f) ≠ -1#11 := by
  cases f with
  | infinity s => cases packable
  | notANumber => cases packable
  | zero s =>
    unfold UnpackedFloat.pack packedZero
    rw [unpackExponent_packComponents]
    decide
  | finite s m e positive =>
    have small : e ≤ 970 := packable
    have biased : (e + (Format.exponentBias .binary64 : Int) + (52 : Nat)).toNat < 2046 := by
      change (e + (1023 : Nat) + (52 : Nat)).toNat < 2046
      omega
    unfold UnpackedFloat.pack
    dsimp only
    rw [if_neg (by omega)]
    split
    · rw [unpackExponent_packComponents]
      intro same
      have value := congrArg BitVec.toNat same
      rw [BitVec.toNat_ofNat, Nat.mod_eq_of_lt (by omega)] at value
      simp at value
      omega
    · rw [unpackExponent_packComponents]
      decide

theorem isFinite_pack {f : UnpackedFloat} (packable : Packable f) :
    (Float.ofModel (.pack f)).isFinite = true := by
  change (UnpackedFloat.unpack .binary64 (UnpackedFloat.pack .binary64 f)).isFinite = true
  unfold UnpackedFloat.unpack
  dsimp only
  rw [if_neg (packable_exponent packable)]
  split
  · split <;> rfl
  · rfl

theorem shifted_le (em : ExtendedMantissa) (n : Nat) : (em >>> n).mantissa ≤ em.mantissa := by
  change (n.repeat ExtendedMantissa.shiftRightOne em).mantissa ≤ em.mantissa
  induction n with
  | zero => exact Nat.le_refl _
  | succ n ih => exact Nat.le_trans (Nat.div_le_self _ 2) ih

theorem rounded_le (em : ExtendedMantissa) : em.roundedMantissa ≤ em.mantissa + 1 := by
  unfold ExtendedMantissa.roundedMantissa Accuracy.roundToNearestEven
  split <;> omega

theorem log2_le {n k : Nat} (bound : n < 2 ^ (k + 1)) : n.log2 ≤ k := by
  by_cases zero : n = 0
  · subst n
    simp
  · exact Nat.le_of_lt_succ ((Nat.log2_lt zero).mpr bound)

-- Shifting drops digits, and raises the exponent by as many as are too much.
theorem shiftToTargetExponent_le {m k : Nat} {e high : Int} (bound : m < 2 ^ (k + 1))
    (exponent : e ≤ high) (lowest : -1074 ≤ high) (target : k + e - 52 ≤ high) :
    (shiftToTargetExponent .binary64 m e .exact).1.mantissa ≤ m ∧
      (shiftToTargetExponent .binary64 m e .exact).2 ≤ high := by
  have log := log2_le bound
  refine ⟨shifted_le _ _, ?_⟩
  change e + ((max ((m.log2 : Int) + 1 + e - (53 : Nat)) (-1074) - e).toNat : Nat) ≤ high
  omega

theorem roundWithAccuracy_packable {sign : Sign} {m : Nat} {e : Int} (mantissa : m < 2 ^ 116)
    (exponent : e ≤ 0) : Packable (roundWithAccuracy .binary64 sign m e .exact) := by
  let first := shiftToTargetExponent .binary64 m e .exact
  obtain ⟨less, low⟩ : first.1.mantissa ≤ m ∧ first.2 ≤ 63 :=
    shiftToTargetExponent_le mantissa (by omega) (by decide) (by omega)
  have rounded : first.1.roundedMantissa < 2 ^ 117 := by
    have := rounded_le first.1
    omega
  have last : (shiftToTargetExponent .binary64 first.1.roundedMantissa first.2 .exact).2 ≤ 970 :=
    (shiftToTargetExponent_le rounded (by omega) (by decide) (by omega)).2
  unfold roundWithAccuracy
  dsimp only
  split
  · trivial
  · exact last

theorem round_packable {sign : Sign} {m : Nat} (fits : m < 2 ^ 64) :
    Packable (round .binary64 sign m 0) := by
  let up := (0 - max ((m.log2 : Int) + 1 + 0 - (53 : Nat)) (-1074)).toNat
  have bits : up ≤ 52 := by
    dsimp only [up]
    omega
  have shifted : m <<< up < 2 ^ 116 := by
    rw [Nat.shiftLeft_eq]
    have powers := Nat.pow_le_pow_right (n := 2) (by decide) bits
    calc m * 2 ^ up ≤ m * 2 ^ 52 := Nat.mul_le_mul_left m powers
      _ < 2 ^ 116 := by omega
  change Packable (roundWithAccuracy .binary64 sign (m <<< up) (0 - (up : Int)) .exact)
  exact roundWithAccuracy_packable shifted (by omega)

theorem widen_finite (n : Int64) : (Value.widen n).isFinite = true := by
  have low := Int64.le_toInt n
  have high := Int64.toInt_lt n
  apply isFinite_pack
  change Packable (UnpackedFloat.normalize .binary64 n.toInt 0 .positive)
  unfold UnpackedFloat.normalize
  split
  · exact round_packable (by omega)
  · trivial
  · exact round_packable (by omega)

end Colloquy
