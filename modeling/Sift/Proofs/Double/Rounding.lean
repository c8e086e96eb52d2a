import Sift.Double
import Mathlib.Tactic

/-!
# Rounding integers to doubles

The double nearest to an integer is a number, and a greater integer has no lesser
double. Different integers can have one double, but not up to 2^53.
-/
namespace Sift

theorem roundEven_mono (den : Nat) {a b : Nat} (le : a ≤ b) :
    roundEven a den ≤ roundEven b den := by
  have quotients : a / den ≤ b / den := Nat.div_le_div_right le
  have parts := Nat.div_add_mod a den
  have parts' := Nat.div_add_mod b den
  rcases Nat.lt_or_eq_of_le quotients with less | same
  · simp only [roundEven]
    split <;> split <;> omega
  · have remainders : a % den ≤ b % den := by
      rw [same] at parts
      omega
    simp only [roundEven, same]
    split <;> split <;> omega

/-- Rounding does not cross a natural number. -/
theorem le_roundEven {den a n : Nat} (positive : 0 < den) (le : n * den ≤ a) : n ≤ roundEven a den := by
  have quotient : n ≤ a / den := (Nat.le_div_iff_mul_le positive).mpr le
  simp only [roundEven]
  split <;> omega

theorem roundEven_le {den a n : Nat} (positive : 0 < den) (lt : a < n * den) : roundEven a den ≤ n := by
  have quotient : a / den < n := (Nat.div_lt_iff_lt_mul positive).mpr lt
  simp only [roundEven]
  split <;> omega

theorem roundEven_one (n : Nat) : roundEven n 1 = n := by
  simp [roundEven, Nat.mod_one]

namespace Precision

/-- The rounded significand of a natural number at the exponent of its leading bit. -/
def leading (n : Nat) : Nat := roundEven (n * 2 ^ (52 - n.log2)) (2 ^ (n.log2 - 52))

theorem exponentOf_nat {n : Nat} (positive : n ≠ 0) :
    double.exponentOf n 1 = (n.log2 : Int) - 52 := by
  have low : 2 ^ n.log2 ≤ n := Nat.log2_self_le positive
  have log : Nat.log2 1 = 0 := by decide
  simp only [exponentOf, scale, double, log, Nat.pow_eq, Nat.cast_zero, sub_zero, Int.toNat_natCast,
    Int.toNat_neg_natCast, pow_zero, Nat.mul_one, Nat.one_mul, if_pos low]
  omega

theorem round_nat {n : Nat} (positive : n ≠ 0) :
    double.round n 1 = min double.infinity ((n.log2 + 1022) * 2 ^ 52 + leading n) := by
  have up : (-((n.log2 : Int) - 52)).toNat = 52 - n.log2 := by omega
  have down : ((n.log2 : Int) - 52).toNat = n.log2 - 52 := by omega
  have shift : ((n.log2 : Int) - 52 - double.leastExponent).toNat = n.log2 + 1022 := by
    simp only [double]
    omega
  simp only [round, positive, if_false, exponentOf_nat positive, scale, up, down, shift, Nat.pow_eq,
    Nat.one_mul]
  rfl

theorem le_leading {n : Nat} (positive : n ≠ 0) : 2 ^ 52 ≤ leading n := by
  have low : 2 ^ n.log2 ≤ n := Nat.log2_self_le positive
  refine le_roundEven (Nat.two_pow_pos _) ?_
  calc 2 ^ 52 * 2 ^ (n.log2 - 52) = 2 ^ (52 + (n.log2 - 52)) := (pow_add ..).symm
    _ = 2 ^ (n.log2 + (52 - n.log2)) := by congr 1; omega
    _ = 2 ^ n.log2 * 2 ^ (52 - n.log2) := pow_add ..
    _ ≤ n * 2 ^ (52 - n.log2) := Nat.mul_le_mul_right _ low

theorem leading_le (n : Nat) : leading n ≤ 2 ^ 53 := by
  have high : n < 2 ^ (n.log2 + 1) := Nat.lt_log2_self
  refine roundEven_le (Nat.two_pow_pos _) ?_
  calc n * 2 ^ (52 - n.log2) < 2 ^ (n.log2 + 1) * 2 ^ (52 - n.log2) :=
        Nat.mul_lt_mul_of_pos_right high (Nat.two_pow_pos _)
    _ = 2 ^ (n.log2 + 1 + (52 - n.log2)) := (pow_add ..).symm
    _ = 2 ^ (53 + (n.log2 - 52)) := by congr 1; omega
    _ = 2 ^ 53 * 2 ^ (n.log2 - 52) := pow_add ..

/-- A greater natural number has no lesser double. -/
theorem round_nat_mono {m n : Nat} (le : m ≤ n) : double.round m 1 ≤ double.round n 1 := by
  by_cases zero : m = 0
  · simp [round, zero]
  · have positive : n ≠ 0 := by omega
    rw [round_nat zero, round_nat positive]
    refine min_le_min_left _ ?_
    have logs : m.log2 ≤ n.log2 :=
      (Nat.le_log2 positive).mpr (le_trans (Nat.log2_self_le zero) le)
    rcases Nat.lt_or_eq_of_le logs with less | same
    · calc (m.log2 + 1022) * 2 ^ 52 + leading m ≤ (m.log2 + 1022) * 2 ^ 52 + 2 ^ 53 :=
            Nat.add_le_add_left (leading_le m) _
        _ = (m.log2 + 1023) * 2 ^ 52 + 2 ^ 52 := by ring
        _ ≤ (n.log2 + 1022) * 2 ^ 52 + leading n :=
            Nat.add_le_add (Nat.mul_le_mul_right _ (by omega)) (le_leading positive)
    · have significands : leading m ≤ leading n := by
        rw [leading, leading, same]
        exact roundEven_mono _ (Nat.mul_le_mul_right _ le)
      rw [same]
      exact Nat.add_le_add_left significands _

/-- The significand of a number up to 2^53 is not rounded. -/
theorem leading_of_small {n : Nat} (positive : n ≠ 0) (small : n ≤ 2 ^ 53) :
    leading n * 2 ^ n.log2 = n * 2 ^ 52 := by
  rcases Nat.lt_or_eq_of_le small with less | rfl
  · have top : n.log2 ≤ 52 := Nat.lt_succ_iff.mp ((Nat.log2_lt positive).mpr less)
    rw [leading, Nat.sub_eq_zero_of_le top, pow_zero, roundEven_one, Nat.mul_assoc, ← pow_add,
      Nat.sub_add_cancel top]
  · decide +kernel

theorem leading_lt {n : Nat} (positive : n ≠ 0) (small : n ≤ 2 ^ 53) : leading n < 2 ^ 53 := by
  have high : n < 2 ^ (n.log2 + 1) := Nat.lt_log2_self
  refine Nat.lt_of_mul_lt_mul_right (a := 2 ^ n.log2) ?_
  calc leading n * 2 ^ n.log2 = n * 2 ^ 52 := leading_of_small positive small
    _ < 2 ^ (n.log2 + 1) * 2 ^ 52 := Nat.mul_lt_mul_of_pos_right high (Nat.two_pow_pos 52)
    _ = 2 ^ 53 * 2 ^ n.log2 := by ring

theorem round_of_small {n : Nat} (positive : n ≠ 0) (small : n ≤ 2 ^ 53) :
    double.round n 1 = (n.log2 + 1022) * 2 ^ 52 + leading n := by
  have top : n.log2 < 54 := (Nat.log2_lt positive).mpr (lt_of_le_of_lt small (by decide))
  have high := leading_lt positive small
  rw [round_nat positive]
  refine min_eq_right ?_
  simp only [double]
  omega

/-- Natural numbers up to 2^53 have different doubles. -/
theorem round_injective {m n : Nat} (left : m ≤ 2 ^ 53) (right : n ≤ 2 ^ 53)
    (same : double.round m 1 = double.round n 1) : m = n := by
  have zero : double.round 0 1 = 0 := rfl
  by_cases noLeft : m = 0
  · by_cases noRight : n = 0
    · rw [noLeft, noRight]
    · rw [noLeft, zero, round_of_small noRight right] at same
      omega
  · by_cases noRight : n = 0
    · rw [noRight, zero, round_of_small noLeft left] at same
      omega
    · rw [round_of_small noLeft left, round_of_small noRight right] at same
      have lowLeft := le_leading noLeft
      have lowRight := le_leading noRight
      have highLeft := leading_lt noLeft left
      have highRight := leading_lt noRight right
      have exponents : m.log2 = n.log2 := by omega
      have significands : leading m = leading n := by omega
      have numbers := leading_of_small noLeft left
      rw [exponents, significands, leading_of_small noRight right] at numbers
      omega

theorem round_le_infinity (num den : Nat) : double.round num den ≤ double.infinity := by
  rw [round]
  split
  · exact Nat.zero_le _
  · exact min_le_left _ _

end Precision

namespace Double

theorem magnitude_ofMagnitude (negative : Bool) {m : Nat} (small : m < 2 ^ 63) :
    (ofMagnitude negative m).magnitude = m := by
  simp only [ofMagnitude, magnitude, BitVec.toNat_ofNat]
  cases negative <;> simp <;> omega

theorem negative_ofMagnitude (negative : Bool) {m : Nat} (small : m < 2 ^ 63) :
    (ofMagnitude negative m).negative = negative := by
  simp only [ofMagnitude, Double.negative, BitVec.msb_eq_decide, BitVec.toNat_ofNat]
  cases negative <;> simp <;> omega

theorem small_round (num den : Nat) : Precision.double.round num den < 2 ^ 63 :=
  lt_of_le_of_lt (Precision.round_le_infinity num den) (by decide)

/-- An integer rounds to a number. -/
theorem isNaN_ofInt (i : Int) : (ofInt i).isNaN = false := by
  rw [isNaN, ofInt, ofRatio, magnitude_ofMagnitude _ (small_round _ _), decide_eq_false_iff_not]
  exact not_lt.mpr (Precision.round_le_infinity _ _)

theorem place_ofInt (i : Int) : (ofInt i).place =
    if i < 0 then -(Precision.double.round i.natAbs 1 : Int) else Precision.double.round i.natAbs 1 := by
  rw [place, ofInt, ofRatio, negative_ofMagnitude _ (small_round _ _),
    magnitude_ofMagnitude _ (small_round _ _)]
  simp

/-- A greater integer has no lesser double. -/
theorem place_ofInt_mono {i j : Int} (le : i ≤ j) : (ofInt i).place ≤ (ofInt j).place := by
  rw [place_ofInt, place_ofInt]
  by_cases left : i < 0
  · by_cases right : j < 0
    · have := Precision.round_nat_mono (show j.natAbs ≤ i.natAbs by omega)
      simp only [left, right, if_true]
      omega
    · simp only [left, right, if_true, if_false]
      omega
  · have right : ¬ j < 0 := by omega
    have := Precision.round_nat_mono (show i.natAbs ≤ j.natAbs by omega)
    simp only [left, right, if_false]
    omega

/-- Integers up to 2^53 have different places. -/
theorem place_ofInt_injective {i j : Int} (left : i.natAbs ≤ 2 ^ 53) (right : j.natAbs ≤ 2 ^ 53)
    (same : (ofInt i).place = (ofInt j).place) : i = j := by
  have zero {n : Nat} (small : n ≤ 2 ^ 53) (none : Precision.double.round n 1 = 0) : n = 0 :=
    Precision.round_injective small (Nat.zero_le _) none
  rw [place_ofInt, place_ofInt] at same
  split at same
  · split at same
    · have absolute := Precision.round_injective left right (by omega)
      omega
    · have absolute := zero left (by omega)
      omega
  · split at same
    · have absolute := zero right (by omega)
      omega
    · have absolute := Precision.round_injective left right (by omega)
      omega

end Double
end Sift
