import FieldCheck.Binary64.Basic
import Mathlib.Algebra.Order.Field.Power
import Mathlib.Algebra.Order.Floor.Semifield
import Mathlib.Data.Int.Log
import Mathlib.Data.Rat.Floor
import Mathlib.Tactic.FieldSimp
import Mathlib.Tactic.Linarith
import Mathlib.Tactic.Ring

namespace FieldCheck.Binary64

/-! Quotients that round to a given number.

All is measured by rational numbers: a quotient by its worth, and a number by its
significand times a power of two. A quotient nearer to a number than half the way to its
neighbours rounds to it. The way down is half as long where the significand is the least one
of 53 bits, since the number below has the next lower exponent.
-/

/-- What the parts of a number are worth. -/
def worth (significand : Nat) (exponent : Int) : ℚ := significand * 2 ^ exponent

variable {numerator denominator significand : Nat} {exponent : Int}

theorem worth_pos (given : significand ≠ 0) (exponent : Int) : 0 < worth significand exponent := by
  have positive : (0 : ℚ) < significand := by exact_mod_cast Nat.pos_of_ne_zero given
  rw [worth]
  positivity

theorem zpow_of_nonneg (base : ℚ) (up : 0 ≤ exponent) :
    base ^ exponent = base ^ exponent.toNat := by
  rw [← zpow_natCast, Int.toNat_of_nonneg up]

theorem zpow_of_neg (base : ℚ) (down : ¬0 ≤ exponent) :
    base ^ exponent = (base ^ (-exponent).toNat)⁻¹ := by
  rw [← zpow_natCast, Int.toNat_of_nonneg (by omega), zpow_neg, inv_inv]

theorem two_zpow_add (exponent : Int) (extra : Nat) :
    (2 : ℚ) ^ (exponent + extra) = 2 ^ extra * 2 ^ exponent := by
  rw [zpow_add₀ two_ne_zero, zpow_natCast, mul_comm]

theorem two_zpow_sub (exponent : Int) (bits : Nat) :
    ((2 ^ bits : Nat) : ℚ) * 2 ^ (exponent - bits) = 2 ^ exponent := by
  rw [Nat.cast_pow, Nat.cast_ofNat, ← two_zpow_add, sub_add_cancel]

theorem log_eq_iff {base : Nat} (large : 1 < base) {q : ℚ} (positive : 0 < q) :
    Int.log base q = exponent ↔ (base : ℚ) ^ exponent ≤ q ∧ q < (base : ℚ) ^ (exponent + 1) := by
  rw [Int.zpow_le_iff_le_log large positive, Int.lt_zpow_iff_log_lt large positive]
  omega

/-- A quotient lies within a factor of two of what the lengths of its parts say. -/
theorem quotient_bounds (given : numerator ≠ 0) (divisible : denominator ≠ 0) :
    let length : Int := numerator.log2 - denominator.log2
    (2 : ℚ) ^ (length - 1) < numerator / denominator ∧
      (numerator / denominator : ℚ) < 2 ^ (length + 1) := by
  intro length
  have least : (2 : ℚ) ^ numerator.log2 ≤ numerator := by
    exact_mod_cast Nat.log2_self_le given
  have most : (numerator : ℚ) < 2 ^ (numerator.log2 + 1) := by
    exact_mod_cast Nat.lt_log2_self
  have leastBelow : (2 : ℚ) ^ denominator.log2 ≤ denominator := by
    exact_mod_cast Nat.log2_self_le divisible
  have mostBelow : (denominator : ℚ) < 2 ^ (denominator.log2 + 1) := by
    exact_mod_cast Nat.lt_log2_self
  have positive : (0 : ℚ) < denominator := by exact_mod_cast Nat.pos_of_ne_zero divisible
  rw [lt_div_iff₀ positive, div_lt_iff₀ positive]
  constructor
  · calc (2 : ℚ) ^ (length - 1) * denominator
        < 2 ^ (length - 1) * 2 ^ (denominator.log2 + 1) := by gcongr
      _ = 2 ^ numerator.log2 := by
          rw [mul_comm, ← two_zpow_add, ← zpow_natCast]
          congr 1
          push_cast
          omega
      _ ≤ numerator := least
  · calc (numerator : ℚ) < 2 ^ (numerator.log2 + 1) := most
      _ = 2 ^ (length + 1) * 2 ^ denominator.log2 := by
          rw [mul_comm, ← two_zpow_add, ← zpow_natCast]
          congr 1
          push_cast
          omega
      _ ≤ 2 ^ (length + 1) * denominator := by gcongr

theorem scale_quotient (numerator denominator : Nat) (exponent : Int) :
    ((scale numerator denominator exponent).1 : ℚ) / (scale numerator denominator exponent).2 =
      numerator / denominator / 2 ^ exponent := by
  unfold scale
  split
  · rename_i up
    simp [zpow_of_nonneg _ up, div_div]
  · rename_i down
    simp [zpow_of_neg _ down, mul_div_right_comm]

theorem scale_div_lt_iff {bound : Nat} :
    (scale numerator denominator exponent).1 / (scale numerator denominator exponent).2 < bound ↔
      (numerator / denominator : ℚ) < bound * 2 ^ exponent := by
  rw [← Nat.floor_div_eq_div (K := ℚ), Nat.floor_lt (by positivity), scale_quotient,
    div_lt_iff₀ (by positivity)]

/-- The exponent leaves 53 bits in front of the point, or is the least one. -/
theorem exponentOf_eq (given : numerator ≠ 0) (divisible : denominator ≠ 0) :
    exponentOf numerator denominator =
      max (-1074) (Int.log 2 (numerator / denominator : ℚ) - 52) := by
  have positive : (0 : ℚ) < numerator / denominator := by positivity
  obtain ⟨least, most⟩ := quotient_bounds given divisible
  generalize lengthEq : (numerator.log2 - denominator.log2 : Int) = length at least most
  have split : ((Nat.pow 2 52 : Nat) : ℚ) * 2 ^ (length - 52) = 2 ^ length :=
    two_zpow_sub length 52
  have log : Int.log 2 (numerator / denominator : ℚ) =
      if (numerator / denominator : ℚ) < 2 ^ length then length - 1 else length := by
    rw [log_eq_iff one_lt_two positive]
    split_ifs with small
    · exact ⟨least.le, by simpa using small⟩
    · exact ⟨not_lt.mp (by simpa using small), by simpa using most⟩
  simp only [exponentOf, scale_div_lt_iff, lengthEq, split, log]
  split_ifs <;> omega

theorem roundQuotient_eq_of_near {nearest : Nat} (divisible : denominator ≠ 0)
    (above : (numerator / denominator : ℚ) < nearest + 1 / 2)
    (below : (nearest : ℚ) - 1 / 2 < numerator / denominator) :
    roundQuotient numerator denominator = nearest := by
  have positive : (0 : ℚ) < denominator := by exact_mod_cast Nat.pos_of_ne_zero divisible
  rw [div_lt_iff₀ positive] at above
  rw [lt_div_iff₀ positive] at below
  have most : 2 * numerator < (2 * nearest + 1) * denominator := by
    have doubled : (2 * numerator : ℚ) < (2 * nearest + 1) * denominator := by linarith
    exact_mod_cast doubled
  have least : 2 * nearest * denominator < 2 * numerator + denominator := by
    have doubled : (2 * nearest * denominator : ℚ) < 2 * numerator + denominator := by linarith
    exact_mod_cast doubled
  have divided := Nat.div_add_mod numerator denominator
  have remainder := Nat.mod_lt numerator (Nat.pos_of_ne_zero divisible)
  simp only [roundQuotient]
  generalize numerator / denominator = quotient at divided ⊢
  generalize numerator % denominator = rest at divided remainder ⊢
  -- The nearest number is the quotient rounded down, or the one after it.
  have atLeast : 2 * quotient < 2 * nearest + 1 := by
    refine Nat.lt_of_mul_lt_mul_right (a := denominator) ?_
    linarith
  have atMost : 2 * nearest < 2 * quotient + 3 := by
    refine Nat.lt_of_mul_lt_mul_right (a := denominator) ?_
    linarith
  obtain rfl | rfl : nearest = quotient ∨ nearest = quotient + 1 := by omega
  · rw [if_neg]
    have under : 2 * rest < denominator := by linarith
    omega
  · rw [if_pos]
    exact .inl (by linarith)

/-- Nearer to a number than half the way to its neighbours. -/
structure Near (significand : Nat) (exponent : Int) (q : ℚ) : Prop where
  above : q < worth significand exponent + 2 ^ exponent / 2
  below : worth significand exponent - 2 ^ exponent / 2 < q
  bottom : significand = 2 ^ 52 → worth significand exponent - 2 ^ exponent / 4 < q

theorem near_worth (significand : Nat) (exponent : Int) :
    Near significand exponent (worth significand exponent) := by
  have positive : (0 : ℚ) < 2 ^ exponent := by positivity
  exact ⟨by linarith, by linarith, fun _ => by linarith⟩

theorem Near.pos {q : ℚ} (near : Near significand exponent q) (given : significand ≠ 0) : 0 < q := by
  have least : (1 : ℚ) ≤ significand := by exact_mod_cast Nat.one_le_iff_ne_zero.mpr given
  have below := near.below
  have positive : (0 : ℚ) < 2 ^ exponent := by positivity
  rw [worth] at below
  nlinarith

theorem scale_divisor_ne_zero (divisible : denominator ≠ 0) :
    (scale numerator denominator exponent).2 ≠ 0 := by
  unfold scale
  split
  · simp [divisible]
  · exact divisible

theorem ofRatio_eq_of_rounded (negative : Bool) (given : numerator ≠ 0) (divisible : denominator ≠ 0)
    (found : exponentOf numerator denominator = exponent)
    (above : (numerator / denominator : ℚ) < (significand + 1 / 2) * 2 ^ exponent)
    (below : (significand - 1 / 2 : ℚ) * 2 ^ exponent < numerator / denominator) :
    ofRatio negative numerator denominator =
      if significand = 2 ^ 53 then ofParts negative (2 ^ 52) (exponent + 1)
      else ofParts negative significand exponent := by
  have rounded : roundQuotient (scale numerator denominator exponent).1
      (scale numerator denominator exponent).2 = significand := by
    apply roundQuotient_eq_of_near (scale_divisor_ne_zero divisible)
    · rwa [scale_quotient, div_lt_iff₀ (by positivity)]
    · rwa [scale_quotient, lt_div_iff₀ (by positivity)]
  simp only [ofRatio, if_neg given, found, rounded, Nat.pow_eq]

/-- A power of two is reached from below by rounding up. -/
theorem ofRatio_eq_of_near_bottom (negative : Bool) (least : -1074 ≤ exponent)
    (given : numerator ≠ 0) (divisible : denominator ≠ 0)
    (above : (numerator / denominator : ℚ) < 2 ^ 53 * 2 ^ exponent)
    (below : (2 ^ 53 - 1 / 2) * 2 ^ exponent < (numerator / denominator : ℚ)) :
    ofRatio negative numerator denominator = ofParts negative (2 ^ 52) (exponent + 1) := by
  have unit : (0 : ℚ) < 2 ^ exponent := by positivity
  have low : (2 : ℚ) ^ (exponent + 52) = 2 ^ 52 * 2 ^ exponent := two_zpow_add exponent 52
  have high : (2 : ℚ) ^ (exponent + 53) = 2 ^ 53 * 2 ^ exponent := two_zpow_add exponent 53
  have log : Int.log 2 (numerator / denominator : ℚ) = exponent + 52 := by
    have next : exponent + 52 + 1 = exponent + 53 := by omega
    rw [log_eq_iff one_lt_two (by positivity), next, Nat.cast_ofNat, low, high]
    exact ⟨by linarith, above⟩
  have found : exponentOf numerator denominator = exponent := by
    rw [exponentOf_eq given divisible, log]
    omega
  have roundedAbove : (numerator / denominator : ℚ) <
      (((2 ^ 53 : Nat) : ℚ) + 1 / 2) * 2 ^ exponent := by
    push_cast
    linarith
  have roundedBelow : (((2 ^ 53 : Nat) : ℚ) - 1 / 2) * 2 ^ exponent <
      numerator / denominator := by
    push_cast
    exact below
  rw [ofRatio_eq_of_rounded negative given divisible found roundedAbove roundedBelow, if_pos rfl]

theorem ofRatio_eq_of_exact (negative : Bool) (given : numerator ≠ 0) (divisible : denominator ≠ 0)
    (found : exponentOf numerator denominator = exponent)
    (exact : (numerator / denominator : ℚ) = worth significand exponent) :
    ofRatio negative numerator denominator =
      if significand = 2 ^ 53 then ofParts negative (2 ^ 52) (exponent + 1)
      else ofParts negative significand exponent := by
  have unit : (0 : ℚ) < 2 ^ exponent := by positivity
  rw [worth] at exact
  exact ofRatio_eq_of_rounded negative given divisible found (by linarith) (by linarith)

theorem ofRatio_eq_of_near (negative : Bool) (canonical : Canonical significand exponent)
    (given : significand ≠ 0) (divisible : denominator ≠ 0)
    (near : Near significand exponent (numerator / denominator)) :
    ofRatio negative numerator denominator = ofParts negative significand exponent := by
  obtain ⟨small, least, -, full⟩ := canonical
  simp only [Nat.pow_eq] at small full
  have positive := near.pos given
  have numeratorGiven : numerator ≠ 0 := by
    rintro rfl
    simp at positive
  have unit : (0 : ℚ) < 2 ^ exponent := by positivity
  have low : (2 : ℚ) ^ (exponent + 52) = 2 ^ 52 * 2 ^ exponent := two_zpow_add exponent 52
  have high : (2 : ℚ) ^ (exponent + 53) = 2 ^ 53 * 2 ^ exponent := two_zpow_add exponent 53
  have fits : (significand : ℚ) + 1 ≤ 2 ^ 53 := by exact_mod_cast small
  have above := near.above
  have below := near.below
  rw [worth] at above below
  by_cases reached : exponent = -1074 ∨ (2 : ℚ) ^ (exponent + 52) ≤ numerator / denominator
  · have found : exponentOf numerator denominator = exponent := by
      have under : (numerator / denominator : ℚ) < (2 : ℕ) ^ (exponent + 53) := by
        rw [Nat.cast_ofNat, high]
        nlinarith
      have most := (Int.lt_zpow_iff_log_lt one_lt_two positive).mp under
      rw [exponentOf_eq numeratorGiven divisible]
      rcases reached with bottom | reached
      · omega
      · have atLeast := (Int.zpow_le_iff_le_log one_lt_two positive).mp reached
        omega
    have roundedAbove : (numerator / denominator : ℚ) < (significand + 1 / 2) * 2 ^ exponent := by
      linarith
    have roundedBelow : (significand - 1 / 2 : ℚ) * 2 ^ exponent < numerator / denominator := by
      linarith
    rw [ofRatio_eq_of_rounded negative numeratorGiven divisible found roundedAbove roundedBelow,
      if_neg (by omega)]
  · -- Only the least significand of 53 bits has a quotient with a lower exponent near it.
    obtain ⟨notLeast, missed⟩ := not_or.mp reached
    rw [not_le, low] at missed
    have exact : significand = 2 ^ 52 := by
      refine le_antisymm (not_lt.mp fun beyond => ?_) (full.resolve_right notLeast)
      have beyond : (2 ^ 52 + 1 : ℚ) ≤ significand := by exact_mod_cast beyond
      nlinarith
    have bottom := near.bottom exact
    have half : (2 : ℚ) ^ exponent = 2 * 2 ^ (exponent - 1) := by
      rw [zpow_sub_one₀ two_ne_zero]
      ring
    rw [worth, exact, half] at bottom
    rw [half] at missed
    push_cast at bottom
    have before := ofRatio_eq_of_near_bottom negative (show -1074 ≤ exponent - 1 by omega)
      numeratorGiven divisible (by linarith) (by linarith)
    rw [before, exact, sub_add_cancel]

/-- A decimal near a number reads as that number, unless it is far out of range. -/
theorem ofDecimal_eq_of_near {digits : Nat} {power : Int} (negative : Bool)
    (canonical : Canonical significand exponent) (given : significand ≠ 0)
    (least : -400 ≤ power) (most : power ≤ 400)
    (near : Near significand exponent (digits * 10 ^ power)) :
    ofDecimal negative digits power = ofParts negative significand exponent := by
  have digitsGiven : digits ≠ 0 := by
    have positive := near.pos given
    rintro rfl
    simp at positive
  rw [ofDecimal, if_neg digitsGiven, if_neg (by omega), if_neg (by omega)]
  split
  · rename_i up
    apply ofRatio_eq_of_near negative canonical given one_ne_zero
    simpa [zpow_of_nonneg _ up] using near
  · rename_i down
    apply ofRatio_eq_of_near negative canonical given (by simp)
    simpa [zpow_of_neg _ down, div_eq_mul_inv] using near

def Whole (significand : Nat) (exponent : Int) : Prop :=
  ∃ count : Nat, worth significand exponent = count

theorem whole_of_nonneg (up : 0 ≤ exponent) : Whole significand exponent := by
  obtain ⟨power, rfl⟩ := Int.eq_ofNat_of_zero_le up
  exact ⟨significand * 2 ^ power, by simp [worth]⟩

theorem eq_of_ofParts_eq {negative : Bool} {other : Nat} {otherExponent : Int}
    (canonical : Canonical significand exponent)
    (same : ofParts negative other otherExponent = ofParts negative significand exponent) :
    other = significand ∧ otherExponent = exponent := by
  rw [ofParts, ofParts, dif_pos canonical] at same
  split at same
  · cases same
    exact ⟨rfl, rfl⟩
  · cases same

theorem whole_of_zero_eq {negative : Bool} (canonical : Canonical significand exponent)
    (same : zero negative = ofParts negative significand exponent) : Whole significand exponent := by
  rw [zero, ofParts, dif_pos canonical] at same
  cases same
  exact ⟨0, by simp [worth]⟩

theorem worth_carry (exponent : Int) : worth (2 ^ 52) (exponent + 1) = worth (2 ^ 53) exponent := by
  have doubled : (2 : ℚ) ^ (exponent + 1) = 2 ^ 1 * 2 ^ exponent := two_zpow_add exponent 1
  rw [worth, worth, doubled]
  push_cast
  ring

theorem worth_shifted (count power : Nat) : worth (count * 2 ^ power) (-power) = count := by
  simp [worth]

theorem whole_of_ofRatio_eq {negative : Bool} (canonical : Canonical significand exponent)
    (divisible : denominator ≠ 0) (divides : denominator ∣ numerator)
    (same : ofRatio negative numerator denominator = ofParts negative significand exponent) :
    Whole significand exponent := by
  by_cases given : numerator = 0
  · rw [ofRatio, if_pos given] at same
    exact whole_of_zero_eq canonical same
  by_cases up : 0 ≤ exponentOf numerator denominator
  · simp only [ofRatio, if_neg given] at same
    split at same
    · obtain ⟨-, rfl⟩ := eq_of_ofParts_eq canonical same
      exact whole_of_nonneg (by omega)
    · obtain ⟨-, rfl⟩ := eq_of_ofParts_eq canonical same
      exact whole_of_nonneg up
  · -- The quotient fits at its exponent, so rounding leaves it as it is.
    obtain ⟨power, found⟩ : ∃ power : Nat, exponentOf numerator denominator = -power :=
      ⟨(-exponentOf numerator denominator).toNat, by omega⟩
    obtain ⟨count, rfl⟩ := divides
    have quotient : ((denominator * count : Nat) : ℚ) / denominator = count := by
      push_cast
      field_simp
    have rounded := ofRatio_eq_of_exact negative given divisible found
      (quotient.trans (worth_shifted count power).symm)
    rw [rounded] at same
    split at same
    · rename_i full
      obtain ⟨rfl, rfl⟩ := eq_of_ofParts_eq canonical same
      exact ⟨count, by rw [worth_carry, ← full, worth_shifted]⟩
    · obtain ⟨rfl, rfl⟩ := eq_of_ofParts_eq canonical same
      exact ⟨count, worth_shifted count power⟩

theorem whole_of_ofDecimal_eq {negative : Bool} {digits : Nat} {power : Int}
    (canonical : Canonical significand exponent)
    (divides : 10 ^ (-power).toNat ∣ digits)
    (same : ofDecimal negative digits power = ofParts negative significand exponent) :
    Whole significand exponent := by
  rw [ofDecimal] at same
  split_ifs at same with noDigits beyond tiny up
  · exact whole_of_zero_eq canonical same
  · rw [ofParts, dif_pos canonical] at same
    cases same
  · exact whole_of_zero_eq canonical same
  · exact whole_of_ofRatio_eq canonical one_ne_zero (one_dvd _) same
  · exact whole_of_ofRatio_eq canonical (by simp) divides same

end FieldCheck.Binary64
