import FieldCheck.Proofs.Binary64.Rounding

namespace FieldCheck.Binary64

theorem isFinite_ofParts {negative : Bool} {significand : Nat} {exponent : Int}
    (canonical : Canonical significand exponent) :
    (ofParts negative significand exponent).isFinite = true := by
  rw [ofParts, dif_pos canonical]
  rfl

theorem roundQuotient_bounds (numerator denominator : Nat) :
    numerator / denominator ≤ roundQuotient numerator denominator ∧
      roundQuotient numerator denominator ≤ numerator / denominator + 1 := by
  unfold roundQuotient
  dsimp only
  split <;> omega

variable {size : Nat}

theorem scale_log2_bounds (positive : size ≠ 0) :
    let scaled := scale size 1 (size.log2 - 52)
    2 ^ 52 ≤ scaled.1 / scaled.2 ∧ scaled.1 / scaled.2 < 2 ^ 53 := by
  intro scaled
  have least : (2 : ℚ) ^ (size.log2 : Int) ≤ size := by exact_mod_cast Nat.log2_self_le positive
  have most : (size : ℚ) < 2 ^ (size.log2 + 1 : Int) := by
    exact_mod_cast Nat.lt_log2_self
  have sameShift : (size.log2 + 1 - (53 : Nat) : Int) = size.log2 - (52 : Nat) := by omega
  rw [← two_zpow_sub _ 52] at least
  rw [← two_zpow_sub _ 53, sameShift] at most
  rw [← not_lt, scale_div_lt_iff, scale_div_lt_iff, not_lt, Nat.cast_one, div_one]
  exact ⟨least, most⟩

theorem exponentOf_integer (positive : size ≠ 0) :
    exponentOf size 1 = (size.log2 : Int) - 52 := by
  rw [exponentOf_eq positive one_ne_zero, Nat.cast_one, div_one, Int.log_natCast,
    ← Nat.log2_eq_log_two]
  omega

theorem isFinite_ofRatio_integer (negative : Bool) (bounded : size.log2 < 1023) :
    (ofRatio negative size 1).isFinite = true := by
  by_cases zero : size = 0
  · rw [ofRatio, if_pos zero]
    rfl
  · obtain ⟨lower, upper⟩ := scale_log2_bounds zero
    have rounded := roundQuotient_bounds (scale size 1 (size.log2 - 52)).1
      (scale size 1 (size.log2 - 52)).2
    simp only [ofRatio, if_neg zero, exponentOf_integer zero]
    split
    · exact isFinite_ofParts ⟨by decide, by omega, by omega, .inl le_rfl⟩
    · rename_i notFull
      simp only [Nat.pow_eq] at notFull
      have canonical : Canonical (roundQuotient (scale size 1 (size.log2 - 52)).1
          (scale size 1 (size.log2 - 52)).2) (size.log2 - 52) := by
        simp only [Canonical, Nat.pow_eq]
        omega
      exact isFinite_ofParts canonical

theorem isFinite_ofInt {value : Int} (bounded : value.natAbs < 2 ^ 64) :
    (ofInt value).isFinite = true := by
  apply isFinite_ofRatio_integer
  by_cases zero : value.natAbs = 0
  · rw [zero]
    decide
  · have small : value.natAbs.log2 < 64 := (Nat.log2_lt zero).mpr bounded
    omega

end FieldCheck.Binary64
