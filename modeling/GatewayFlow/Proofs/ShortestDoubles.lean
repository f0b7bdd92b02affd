import GatewayFlow.Proofs.Digits

/-!
# Decimals that read back

Reading a decimal depends on its value alone, and the exact decimal of a double is read as that
double. So is the shortest one, since it was tried before it was taken.
-/
namespace GatewayFlow

namespace Double

/-! ### Rounding depends on the value alone -/

theorem roundHalfEven_mul (num den : Nat) {c : Nat} (positive : 0 < c) :
    roundHalfEven (num * c) (den * c) = roundHalfEven num den := by
  have whole : num * c / (den * c) = num / den := Nat.mul_div_mul_right num den positive
  have rest : num * c % (den * c) = num % den * c := Nat.mul_mod_mul_right c num den
  have below : 2 * (num % den * c) < den * c ↔ 2 * (num % den) < den := by
    rw [← Nat.mul_assoc]
    exact Nat.mul_lt_mul_right positive
  have above : den * c < 2 * (num % den * c) ↔ den < 2 * (num % den) := by
    rw [← Nat.mul_assoc]
    exact Nat.mul_lt_mul_right positive
  simp only [roundHalfEven, whole, rest, below, above]

theorem roundHalfEven_exact (n : Nat) {den : Nat} (positive : 0 < den) :
    roundHalfEven (n * den) den = n := by
  simp [roundHalfEven, positive]

theorem nearestRank_mul (num den : Nat) {c : Nat} (positive : 0 < c) :
    nearestRank (num * c) (den * c) = nearestRank num den := by
  have whole : num * c * unitsPerOne / (den * c) = num * unitsPerOne / den := by
    rw [Nat.mul_right_comm, Nat.mul_div_mul_right _ _ positive]
  simp only [nearestRank, whole]
  rw [Nat.mul_right_comm num, Nat.mul_right_comm den, roundHalfEven_mul _ _ positive]

theorem ofRatio_mul (negative : Bool) (num den : Nat) {c : Nat} (positive : 0 < c) :
    ofRatio negative (num * c) (den * c) = ofRatio negative num den := by
  rw [ofRatio, nearestRank_mul _ _ positive, ofRatio]

/-- Zeros behind the digits count as much as the exponent. -/
theorem ofDecimal_mul_pow (negative : Bool) (digits k : Nat) (exponent : Int) :
    ofDecimal negative (digits * 10 ^ k) exponent = ofDecimal negative digits (exponent + k) := by
  by_cases zero : digits = 0
  · simp [ofDecimal, zero]
  have positive : 0 < digits := Nat.pos_of_ne_zero zero
  have nonzero : digits * 10 ^ k ≠ 0 := by positivity
  have magnitude : ((Nat.toDigits 10 (digits * 10 ^ k)).length : Int) + exponent =
      (Nat.toDigits 10 digits).length + (exponent + k) := by
    rw [toDigits_mul_pow positive, List.length_append, List.length_replicate]
    push_cast
    ring
  simp only [ofDecimal, zero, nonzero, magnitude, if_false, Nat.pow_eq]
  congr 2
  -- The two quotients differ by a power of ten, whichever side of the point the digits are on.
  by_cases down : exponent < 0
  · rw [if_pos down]
    by_cases still : exponent + k < 0
    · have split : exponent.natAbs = (exponent + k).natAbs + k := by omega
      rw [if_pos still, split, pow_add, ofRatio_mul _ _ _ (by positivity)]
    · have split : k = (exponent + k).natAbs + exponent.natAbs := by omega
      rw [if_neg still]
      conv_lhs => rw [split, pow_add, ← Nat.mul_assoc]
      rw [← ofRatio_mul negative (digits * 10 ^ (exponent + k).natAbs) 1
        (c := 10 ^ exponent.natAbs) (by positivity), Nat.one_mul]
  · have split : (exponent + k).natAbs = k + exponent.natAbs := by omega
    rw [if_neg down, if_neg (by omega), split, pow_add, Nat.mul_assoc]

/-! ### Signs -/

theorem ofRank_negative (negative : Bool) (rank : Fin rankCount) :
    ofRank negative rank = .finite negative rank := by
  simp [ofRank]

/-- A decimal has the same rank under either sign. -/
theorem ofDecimal_negative (digits : Nat) (exponent : Int) (rank : Fin rankCount)
    (read : ofDecimal false digits exponent = .finite false rank) (negative : Bool) :
    ofDecimal negative digits exponent = .finite negative rank := by
  -- The sign is carried along beside the rank, and `read` says that rounding did not overflow.
  have ranked (num den : Nat) (same : ofRatio false num den = .finite false rank) :
      ofRatio negative num den = .finite negative rank := by
    rw [ofRatio, ofRank] at same ⊢
    split at same
    next small =>
      cases same
      rw [dif_pos small]
    next => cases same
  unfold ofDecimal at read ⊢
  split at read
  next zero =>
    cases read
    rw [if_pos zero]
  next nonzero =>
    rw [if_neg nonzero]
    dsimp only at read ⊢
    split at read
    next => cases read
    next moderate =>
      rw [if_neg moderate]
      split at read
      next tiny =>
        cases read
        rw [if_pos tiny]
      next visible =>
        rw [if_neg visible]
        split at read
        next down => rw [if_pos down, ranked _ _ read]
        next up => rw [if_neg up, ranked _ _ read]

/-! ### Exact decimals -/

theorem significand_lt (rank : Nat) : significand rank < 2 * perScale := by
  have positive : 0 < perScale := by decide
  unfold significand
  split
  next small => omega
  next => have := Nat.mod_lt rank positive; omega

theorem significand_pos {rank : Nat} (positive : 0 < rank) : 0 < significand rank := by
  unfold significand
  split
  next => exact positive
  next large => exact Nat.add_pos_right _ (by decide)

theorem scale_lt {rank : Nat} (finite : rank < rankCount) : scale rank < 2046 := by
  have bound : rank / perScale < 2047 := Nat.div_lt_of_lt_mul (by rwa [Nat.mul_comm])
  unfold scale
  split <;> omega

theorem log2_units {rank : Nat} (large : perScale ≤ rank) :
    Nat.log2 (units rank) = 52 + scale rank := by
  have low : 2 ^ 52 ≤ significand rank := by
    rw [significand, if_neg (by omega)]
    exact Nat.le_add_left ..
  have high : significand rank < 2 ^ 53 := significand_lt rank
  rw [units, Nat.pow_eq]
  have nonzero : significand rank * 2 ^ scale rank ≠ 0 := by positivity
  rw [Nat.log2_eq_iff nonzero, pow_add, show 52 + scale rank + 1 = 53 + scale rank by omega,
    pow_add]
  exact ⟨Nat.mul_le_mul_right _ low, Nat.mul_lt_mul_of_pos_right high (by positivity)⟩

/-- A quotient that is the value of a rank has that rank. -/
theorem nearestRank_exact {num den rank : Nat} (positive : 0 < den)
    (exact : num * unitsPerOne = units rank * den) : nearestRank num den = rank := by
  simp only [nearestRank, exact, Nat.mul_div_cancel _ positive]
  by_cases small : rank < perScale
  · -- Below the first power of two a rank is its own value, and nothing is rounded off.
    have own : units rank = rank := by simp [units, significand, scale, small, Nat.pow_eq]
    have short : Nat.log2 rank ≤ 52 := by
      by_cases zero : rank = 0
      · simp [zero]
      · have := (Nat.log2_lt zero).mpr (small.trans (by decide : perScale < 2 ^ 53))
        omega
    rw [own, Nat.sub_eq_zero_of_le short, Nat.pow_eq, pow_zero, Nat.mul_one,
      roundHalfEven_exact _ positive, Nat.zero_mul, Nat.zero_add]
  · have large : perScale ≤ rank := Nat.le_of_not_lt small
    rw [log2_units large, Nat.add_sub_cancel_left, units, Nat.mul_assoc, Nat.mul_comm _ den,
      roundHalfEven_exact _ (by rw [Nat.pow_eq]; positivity), scale, significand, if_neg small,
      if_neg small, Nat.sub_mul, Nat.one_mul]
    have split := Nat.div_add_mod' rank perScale
    have carried : perScale ≤ rank / perScale * perScale :=
      Nat.le_mul_of_pos_left _ (Nat.div_pos large (by decide))
    omega

end Double

namespace Decimal

open GatewayFlow.Double

theorem ofRank_whole {rank : Nat} (whole : 1074 ≤ scale rank) :
    ofRank rank = ⟨significand rank * 2 ^ (scale rank - 1074), 0⟩ := by
  rw [ofRank, if_pos whole, Nat.pow_eq]

theorem ofRank_fraction {rank m : Nat} (positive : 0 < m) (fraction : scale rank + m = 1074) :
    ofRank rank = ⟨significand rank * 5 ^ m, -(m : Int)⟩ := by
  rw [ofRank, if_neg (by omega), Nat.pow_eq, ← fraction, Nat.add_sub_cancel_left]

theorem unitsPerOne_eq {k m : Nat} (sum : k + m = 1074) : unitsPerOne = 2 ^ k * 2 ^ m := by
  unfold unitsPerOne
  rw [← sum]
  exact pow_add 2 k m

/-- A power of two lies below a power of ten when both are made of steps of which that is true. -/
theorem two_pow_le {bits tens e : Nat} (steps : Nat) (step : 2 ^ bits ≤ 10 ^ tens)
    (within : e ≤ bits * steps) : 2 ^ e ≤ 10 ^ (tens * steps) := by
  calc 2 ^ e ≤ 2 ^ (bits * steps) := Nat.pow_le_pow_right (by decide) within
    _ = (2 ^ bits) ^ steps := pow_mul ..
    _ ≤ (10 ^ tens) ^ steps := Nat.pow_le_pow_left step steps
    _ = 10 ^ (tens * steps) := (pow_mul ..).symm

/-- Where the point stands behind as many digits as the decimal has. -/
def magnitude (d : Decimal) : Int :=
  (Nat.toDigits 10 d.digits).length + d.exponent

theorem magnitude_mk (digits : Nat) (exponent : Int) :
    magnitude ⟨digits, exponent⟩ = (Nat.toDigits 10 digits).length + exponent := rfl

theorem two_pow_128_le : 2 ^ 128 ≤ 10 ^ 40 := by norm_num

theorem two_pow_180_le : 2 ^ 180 ≤ 10 ^ 55 := by norm_num

theorem magnitude_whole {rank : Nat} (finite : rank < rankCount) (whole : 1074 ≤ scale rank) :
    0 ≤ (ofRank rank).magnitude ∧ (ofRank rank).magnitude ≤ 320 := by
  have high : significand rank < 2 ^ 53 := significand_lt rank
  have scaled := scale_lt finite
  have digits : (Nat.toDigits 10 (significand rank * 2 ^ (scale rank - 1074))).length ≤
      40 * 8 := by
    refine (Nat.length_toDigits_le_iff (by decide) (by decide)).mpr ?_
    calc significand rank * 2 ^ (scale rank - 1074)
        < 2 ^ 53 * 2 ^ (scale rank - 1074) :=
          Nat.mul_lt_mul_of_pos_right high (by positivity)
      _ = 2 ^ (53 + (scale rank - 1074)) := (pow_add ..).symm
      _ ≤ 10 ^ (40 * 8) := two_pow_le 8 two_pow_128_le (by omega)
  rw [ofRank_whole whole, magnitude_mk]
  omega

section Fraction

variable {rank m : Nat} (positive : 0 < m) (fraction : scale rank + m = 1074)
include positive fraction

theorem magnitude_fraction_le : (ofRank rank).magnitude ≤ 320 := by
  have high : significand rank < 2 ^ 53 := significand_lt rank
  have digits : (Nat.toDigits 10 (significand rank * 5 ^ m)).length ≤ 40 * 8 + m := by
    refine (Nat.length_toDigits_le_iff (by decide) (by omega)).mpr ?_
    calc significand rank * 5 ^ m < 2 ^ 53 * 5 ^ m :=
          Nat.mul_lt_mul_of_pos_right high (by positivity)
      _ ≤ 10 ^ (40 * 8) * 10 ^ m :=
          Nat.mul_le_mul (two_pow_le 8 two_pow_128_le (by decide))
            (Nat.pow_le_pow_left (by decide) m)
      _ = 10 ^ (40 * 8 + m) := (pow_add ..).symm
  rw [ofRank_fraction positive fraction, magnitude_mk]
  omega

/-- Fewer digits would make the value smaller than the smallest double. -/
theorem le_magnitude_fraction (nonzero : 0 < rank) : -340 ≤ (ofRank rank).magnitude := by
  rw [ofRank_fraction positive fraction, magnitude_mk]
  by_contra small
  have few : (Nat.toDigits 10 (significand rank * 5 ^ m)).length ≤ m - 340 := by omega
  have less : significand rank * 5 ^ m < 10 ^ (m - 340) :=
    (Nat.length_toDigits_le_iff (by decide) (by omega)).mp few
  have unit : 5 ^ m ≤ significand rank * 5 ^ m :=
    Nat.le_mul_of_pos_left _ (significand_pos nonzero)
  have strict : 5 ^ m * 2 ^ m < 10 ^ (m - 340) * 2 ^ m :=
    Nat.mul_lt_mul_of_pos_right (lt_of_le_of_lt unit less) (by positivity)
  have bound : 10 ^ (m - 340) * 2 ^ m ≤ 5 ^ m * 2 ^ m := by
    calc 10 ^ (m - 340) * 2 ^ m ≤ 10 ^ (m - 340) * 10 ^ (55 * 6) :=
          Nat.mul_le_mul_left _ (two_pow_le 6 two_pow_180_le (by omega))
      _ = 10 ^ (m - 340 + 55 * 6) := (pow_add ..).symm
      _ ≤ 10 ^ m := Nat.pow_le_pow_right (by decide) (by omega)
      _ = 5 ^ m * 2 ^ m := mul_pow 5 2 m
  exact absurd strict (Nat.not_lt.mpr bound)

end Fraction

/-- The digits of an exact decimal lie in the range where no power is avoided. -/
theorem ofRank_magnitude {rank : Nat} (positive : 0 < rank) (finite : rank < rankCount) :
    -340 ≤ (ofRank rank).magnitude ∧ (ofRank rank).magnitude ≤ 320 := by
  by_cases whole : 1074 ≤ scale rank
  · obtain ⟨low, high⟩ := magnitude_whole finite whole
    exact ⟨by omega, high⟩
  · obtain ⟨m, fraction⟩ : ∃ m, scale rank + m = 1074 := ⟨1074 - scale rank, by omega⟩
    exact ⟨le_magnitude_fraction (by omega) fraction positive,
      magnitude_fraction_le (by omega) fraction⟩

/-- The rank of the exact decimal of a double is the rank of the double. -/
theorem ofRatio_ofRank (rank : Fin rankCount) :
    (if (ofRank rank).exponent < 0 then
      ofRatio false (ofRank rank).digits (10 ^ (ofRank rank).exponent.natAbs)
      else ofRatio false ((ofRank rank).digits * 10 ^ (ofRank rank).exponent.natAbs) 1) =
      .finite false rank := by
  rw [← ofRank_negative]
  by_cases whole : 1074 ≤ scale rank
  · rw [ofRank_whole whole]
    have exact : significand rank * 2 ^ (scale rank - 1074) * unitsPerOne = units rank * 1 := by
      rw [units, unitsPerOne_eq (Nat.add_zero 1074), pow_zero, Nat.mul_one, Nat.mul_one,
        Nat.mul_assoc, ← pow_add, Nat.sub_add_cancel whole, Nat.pow_eq]
    simp only [Int.natAbs_zero, pow_zero, Nat.mul_one, lt_irrefl, if_false, ofRatio,
      nearestRank_exact Nat.one_pos exact]
  · obtain ⟨m, fraction⟩ : ∃ m, scale rank + m = 1074 := ⟨1074 - scale rank, by omega⟩
    rw [ofRank_fraction (by omega) fraction]
    -- The powers of five in the digits make powers of ten of the two that are missing.
    have exact : significand rank * 5 ^ m * unitsPerOne = units rank * 10 ^ m := by
      rw [units, unitsPerOne_eq fraction, Nat.pow_eq,
        show (10 : Nat) ^ m = 5 ^ m * 2 ^ m from mul_pow 5 2 m]
      ring
    have down : -(m : Int) < 0 := by omega
    simp only [down, if_true, Int.natAbs_neg, Int.natAbs_natCast, ofRatio,
      nearestRank_exact (by positivity) exact]

/-- The exact decimal of a double is read as that double. -/
theorem ofDecimal_ofRank (rank : Fin rankCount) (positive : 0 < rank.val) :
    Double.ofDecimal false (ofRank rank).digits (ofRank rank).exponent = .finite false rank := by
  obtain ⟨visible, moderate⟩ := ofRank_magnitude positive rank.isLt
  rw [magnitude] at visible moderate
  have nonzero : (ofRank rank).digits ≠ 0 := by
    have low := significand_pos positive
    simp only [ofRank, Nat.pow_eq]
    split <;> positivity
  rw [← ofRatio_ofRank rank]
  simp only [ofDecimal, nonzero, if_false, Int.not_lt.mpr moderate, Int.not_lt.mpr visible,
    Nat.pow_eq]

/-- The shortest decimal of a double is read as that double under either sign. -/
theorem ofDecimal_shortest (rank : Fin rankCount) (positive : 0 < rank.val) (negative : Bool) :
    Double.ofDecimal negative (shortest rank).digits (shortest rank).exponent =
      .finite negative rank := by
  have read : Double.ofDecimal false (shortest rank).digits (shortest rank).exponent =
      .finite false rank := by
    simp only [shortest]
    cases found : ((List.range' 1 17).flatMap (ofRank rank).neighbours).find? (readsAs rank) with
    | some d =>
      have tried := List.find?_some found
      rw [readsAs, beq_iff_eq, ofRank_negative] at tried
      exact tried
    | none => exact ofDecimal_ofRank rank positive
  exact ofDecimal_negative _ _ rank read negative

end Decimal
end GatewayFlow
