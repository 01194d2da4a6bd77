import FieldCheck.Proofs.Binary64.Rounding

namespace FieldCheck.Binary64

/-! Rounding gives the nearest number.

A quotient is rounded to a multiple of its unit, which is a power of two. Every number of at
least `2 ^ 52` units is a multiple of the unit as well, and the quotient is that large itself
unless the unit is the least one. So no number is nearer than the nearest multiple.
-/

variable {numerator denominator significand : Nat} {exponent : Int} {q other : ℚ}

def signed (negative : Bool) (q : ℚ) : ℚ := if negative then -q else q

def IsValue (q : ℚ) : Prop :=
  ∃ negative significand exponent, Canonical significand exponent ∧
    q = signed negative (worth significand exponent)

/-- The number that `q` rounds to: the nearest one, of two that are equally near the one with
the even significand, and an infinity from half a unit beyond the largest number on. -/
inductive RoundsTo (q : ℚ) : Binary64 → Prop
  | nearest {negative : Bool} {significand : Nat} {exponent : Int}
      {canonical : Canonical significand exponent}
      (least : ∀ other, IsValue other →
        |signed negative (worth significand exponent) - q| ≤ |other - q|)
      (even : ∀ other, IsValue other →
        |other - q| = |signed negative (worth significand exponent) - q| →
          other = signed negative (worth significand exponent) ∨ Even significand) :
      RoundsTo q (.finite negative significand exponent canonical)
  | overflow {negative : Bool} (beyond : (2 ^ 53 - 1 / 2) * 2 ^ (971 : Int) ≤ signed negative q) :
      RoundsTo q (.infinite negative)

theorem signed_signed (negative : Bool) (q : ℚ) : signed negative (signed negative q) = q := by
  cases negative with
  | false => rfl
  | true => exact neg_neg q

theorem abs_signed_sub (negative : Bool) (q other : ℚ) :
    |signed negative q - other| = |q - signed negative other| := by
  cases negative with
  | false => rfl
  | true => rw [signed, signed, if_pos rfl, if_pos rfl, ← abs_neg]; congr 1; ring

theorem IsValue.signed (value : IsValue q) (negative : Bool) : IsValue (signed negative q) := by
  obtain ⟨other, significand, exponent, canonical, rfl⟩ := value
  refine ⟨xor negative other, significand, exponent, canonical, ?_⟩
  cases negative <;> cases other <;> simp [Binary64.signed]

theorem signed_le {magnitude : ℚ} (nonneg : 0 ≤ magnitude) (negative : Bool) :
    signed negative magnitude ≤ magnitude := by
  cases negative with
  | false => exact le_rfl
  | true => exact (neg_nonpos.mpr nonneg).trans nonneg

/-- A value is a multiple of the unit, or smaller than all quotients that have the unit. -/
theorem multiple_or_small (value : IsValue q) (exponent : Int) :
    (∃ count : Int, q = count * 2 ^ exponent) ∨
      (exponent ≠ -1074 ∧ q < 2 ^ (exponent + 52)) := by
  obtain ⟨negative, significand, own, ⟨fits, lowest, -, -⟩, rfl⟩ := value
  by_cases up : exponent ≤ own
  · obtain ⟨extra, rfl⟩ : ∃ extra : Nat, own = exponent + extra :=
      ⟨(own - exponent).toNat, by omega⟩
    have magnitude : worth significand (exponent + extra) =
        ((significand * 2 ^ extra : Nat) : ℚ) * 2 ^ exponent := by
      rw [worth, two_zpow_add]
      push_cast
      ring
    rw [magnitude]
    cases negative with
    | false => exact .inl ⟨(significand * 2 ^ extra : Nat), by simp [signed]⟩
    | true => exact .inl ⟨-(significand * 2 ^ extra : Nat), by simp [signed]⟩
  · have small : (significand : ℚ) < 2 ^ 53 := by exact_mod_cast fits
    refine .inr ⟨by omega, ?_⟩
    calc signed negative (worth significand own)
        ≤ worth significand own := signed_le (by unfold worth; positivity) negative
      _ < 2 ^ 53 * 2 ^ own := by unfold worth; gcongr
      _ = 2 ^ (own + 53) := (two_zpow_add own 53).symm
      _ ≤ 2 ^ (exponent + 52) := zpow_le_zpow_right₀ one_le_two (by omega)

/-- A quotient is at most one half away from what it is rounded to, and from an even number if
it is one half away. -/
theorem roundQuotient_near (divisible : denominator ≠ 0) :
    |(roundQuotient numerator denominator : ℚ) - numerator / denominator| ≤ 1 / 2 ∧
      (|(roundQuotient numerator denominator : ℚ) - numerator / denominator| = 1 / 2 →
        Even (roundQuotient numerator denominator)) := by
  have positive : (0 : ℚ) < denominator := by exact_mod_cast Nat.pos_of_ne_zero divisible
  have divided : (numerator : ℚ) = denominator * (numerator / denominator : ℕ) +
      (numerator % denominator : ℕ) := by exact_mod_cast (Nat.div_add_mod numerator denominator).symm
  have parts : (numerator : ℚ) / denominator =
      (numerator / denominator : ℕ) + (numerator % denominator : ℕ) / denominator := by
    rw [eq_comm, eq_div_iff positive.ne', add_mul, div_mul_cancel₀ _ positive.ne']
    linarith
  have remainder := Nat.mod_lt numerator (Nat.pos_of_ne_zero divisible)
  have least : (0 : ℚ) ≤ (numerator % denominator : ℕ) / denominator := by positivity
  have most : ((numerator % denominator : ℕ) : ℚ) / denominator < 1 := by
    rw [div_lt_one positive]
    exact_mod_cast remainder
  -- Where the remainder stands to one half decides, and the parity at one half itself.
  have halves : (((numerator % denominator : ℕ) : ℚ) / denominator ≤ 1 / 2 ↔
      2 * (numerator % denominator) ≤ denominator) ∧
      (1 / 2 ≤ ((numerator % denominator : ℕ) : ℚ) / denominator ↔
        denominator ≤ 2 * (numerator % denominator)) := by
    rw [div_le_div_iff₀ positive two_pos, div_le_div_iff₀ two_pos positive, one_mul,
      mul_comm]
    constructor <;> norm_cast
  rw [parts]
  simp only [roundQuotient]
  generalize numerator / denominator = quotient at *
  generalize ((numerator % denominator : ℕ) : ℚ) / denominator = rest at *
  split
  · rename_i up
    have reached : 1 / 2 ≤ rest := halves.2.mpr (by omega)
    have distance : |((quotient + 1 : ℕ) : ℚ) - (quotient + rest)| = 1 - rest := by
      rw [abs_of_nonneg] <;> push_cast <;> linarith
    rw [distance]
    refine ⟨by linarith, fun half => ?_⟩
    have exact : 2 * (numerator % denominator) ≤ denominator := halves.1.mp (by linarith)
    rw [Nat.even_iff]
    omega
  · rename_i down
    have within : rest ≤ 1 / 2 := halves.1.mpr (by omega)
    have distance : |(quotient : ℚ) - (quotient + rest)| = rest := by
      rw [abs_sub_comm, abs_of_nonneg] <;> linarith
    rw [distance]
    refine ⟨within, fun half => ?_⟩
    have exact : denominator ≤ 2 * (numerator % denominator) := halves.2.mp (by linarith)
    rw [Nat.even_iff]
    omega

/-- No integer is nearer than one that is at most one half away. -/
theorem nearest_integer {nearest : Nat} (near : |(nearest : ℚ) - q| ≤ 1 / 2) (count : Int) :
    |(nearest : ℚ) - q| ≤ |count - q| ∧
      (|count - q| = |(nearest : ℚ) - q| → (count : ℚ) = nearest ∨ |(nearest : ℚ) - q| = 1 / 2) := by
  by_cases same : count = nearest
  · subst same
    exact ⟨le_rfl, fun _ => .inl rfl⟩
  · have apart : (1 : ℚ) ≤ |(count : ℚ) - nearest| := by
      have apart : (1 : Int) ≤ |count - nearest| := Int.one_le_abs (sub_ne_zero.mpr same)
      exact_mod_cast apart
    have between := abs_sub_le (count : ℚ) q nearest
    rw [abs_sub_comm q] at between
    exact ⟨by linarith, fun tie => .inr (by linarith)⟩

/-- A quotient is rounded, at an exponent, to a multiple of the unit that is at most half a unit
away, and to an even one if there are two. -/
structure Rounded (significand : Nat) (exponent : Int) (q : ℚ) : Prop where
  least : -1074 ≤ exponent
  large : exponent = -1074 ∨ 2 ^ (exponent + 52) ≤ q
  near : |(significand : ℚ) - q / 2 ^ exponent| ≤ 1 / 2
  even : |(significand : ℚ) - q / 2 ^ exponent| = 1 / 2 → Even significand

/-- No value is nearer to the quotient. -/
theorem Rounded.nearest (rounded : Rounded significand exponent q) (value : IsValue other) :
    |worth significand exponent - q| ≤ |other - q| ∧
      (|other - q| = |worth significand exponent - q| →
        other = worth significand exponent ∨ Even significand) := by
  have unit : (0 : ℚ) < 2 ^ exponent := by positivity
  have scaled (count : ℚ) : |count * 2 ^ exponent - q| = |count - q / 2 ^ exponent| * 2 ^ exponent := by
    rw [← abs_of_pos unit, ← abs_mul, abs_of_pos unit, sub_mul, div_mul_cancel₀ _ unit.ne']
  rcases multiple_or_small value exponent with ⟨count, rfl⟩ | ⟨notLeast, small⟩
  · obtain ⟨nearest, tie⟩ := nearest_integer rounded.near count
    rw [worth, scaled, scaled]
    refine ⟨mul_le_mul_of_nonneg_right nearest unit.le, fun same => ?_⟩
    rcases tie (mul_right_cancel₀ unit.ne' same) with equal | half
    · exact .inl (by rw [equal])
    · exact .inr (rounded.even half)
  · -- The smallest quotient with this unit is a multiple of it and lies in between.
    have large := rounded.large.resolve_left notLeast
    have bottom : |worth significand exponent - q| ≤ |2 ^ (exponent + 52) - q| := by
      have between := (nearest_integer rounded.near (2 ^ 52)).1
      have power : (2 : ℚ) ^ (exponent + 52) = ((2 ^ 52 : Int) : ℚ) * 2 ^ exponent := by
        push_cast
        exact two_zpow_add exponent 52
      rw [worth, power, scaled, scaled]
      exact mul_le_mul_of_nonneg_right between unit.le
    have nearer : |worth significand exponent - q| < |other - q| := by
      rw [abs_of_nonpos (sub_nonpos.mpr large)] at bottom
      rw [abs_of_neg (by linarith : other - q < 0)]
      linarith
    exact ⟨nearer.le, fun same => absurd same nearer.ne'⟩

theorem roundsTo_finite {canonical : Canonical significand exponent} (negative : Bool)
    (closest : ∀ other, IsValue other → |worth significand exponent - q| ≤ |other - q| ∧
      (|other - q| = |worth significand exponent - q| →
        other = worth significand exponent ∨ Even significand)) :
    RoundsTo (signed negative q) (.finite negative significand exponent canonical) := by
  have mirrored : |signed negative (worth significand exponent) - signed negative q| =
      |worth significand exponent - q| := by rw [abs_signed_sub, signed_signed]
  apply RoundsTo.nearest
  · intro other value
    rw [mirrored, ← abs_signed_sub]
    exact (closest _ (value.signed negative)).1
  · intro other value tie
    rw [mirrored, ← abs_signed_sub] at tie
    refine ((closest _ (value.signed negative)).2 tie).imp_left fun same => ?_
    rw [← same, signed_signed]

/-- The parts of a number, or of an infinity. -/
theorem Rounded.roundsTo (rounded : Rounded significand exponent q) (negative : Bool)
    (fits : significand < 2 ^ 53) (full : 2 ^ 52 ≤ significand ∨ exponent = -1074) :
    RoundsTo (signed negative q) (ofParts negative significand exponent) := by
  rw [ofParts]
  split
  · exact roundsTo_finite negative fun other value => rounded.nearest value
  · rename_i beyond
    have high : 971 < exponent := by
      by_contra low
      exact beyond ⟨fits, rounded.least, by omega, full⟩
    have large := rounded.large.resolve_left (by omega)
    apply RoundsTo.overflow
    rw [signed_signed]
    calc (2 ^ 53 - 1 / 2 : ℚ) * 2 ^ (971 : Int)
        ≤ 2 ^ 53 * 2 ^ (971 : Int) :=
          mul_le_mul_of_nonneg_right (by norm_num) (by positivity)
      _ = 2 ^ (971 + (53 : Nat) : Int) := (two_zpow_add 971 53).symm
      _ ≤ 2 ^ (exponent + 52) := zpow_le_zpow_right₀ one_le_two (by omega)
      _ ≤ q := large

/-- A quotient that is rounded up to `2 ^ 53` units has the next unit. -/
theorem Rounded.roundsTo_carried (rounded : Rounded (2 ^ 53) exponent q) (negative : Bool) :
    RoundsTo (signed negative q) (ofParts negative (2 ^ 52) (exponent + 1)) := by
  have least := rounded.least
  rw [ofParts]
  split
  · refine roundsTo_finite negative fun other value => ?_
    rw [worth_carry]
    exact ⟨(rounded.nearest value).1, fun _ => .inr (by decide)⟩
  · rename_i beyond
    have high : 971 ≤ exponent := by
      by_contra low
      exact beyond ⟨by decide, by omega, by omega, .inl le_rfl⟩
    have near : (2 ^ 53 - 1 / 2 : ℚ) * 2 ^ exponent ≤ q := by
      rw [← le_div_iff₀ (by positivity), sub_le_comm]
      simpa only [Nat.cast_pow, Nat.cast_ofNat] using (abs_le.mp rounded.near).2
    apply RoundsTo.overflow
    rw [signed_signed]
    calc (2 ^ 53 - 1 / 2 : ℚ) * 2 ^ (971 : Int)
        ≤ (2 ^ 53 - 1 / 2) * 2 ^ exponent :=
          mul_le_mul_of_nonneg_left (zpow_le_zpow_right₀ one_le_two high) (by norm_num)
      _ ≤ q := near

theorem rounded_ratio (given : numerator ≠ 0) (divisible : denominator ≠ 0)
    (found : exponentOf numerator denominator = exponent) :
    Rounded (roundQuotient (scale numerator denominator exponent).1
      (scale numerator denominator exponent).2) exponent (numerator / denominator) := by
  have positive : (0 : ℚ) < numerator / denominator := by positivity
  have near := @roundQuotient_near (scale numerator denominator exponent).1
    (scale numerator denominator exponent).2 (scale_divisor_ne_zero divisible)
  rw [scale_quotient] at near
  rw [exponentOf_eq given divisible] at found
  refine ⟨by omega, ?_, near.1, near.2⟩
  by_cases bottom : exponent = -1074
  · exact .inl bottom
  · have log : exponent + 52 ≤ Int.log 2 (numerator / denominator : ℚ) := by omega
    exact .inr (by exact_mod_cast (Int.zpow_le_iff_le_log one_lt_two positive).mpr log)

/-- A significand has 53 bits, or has been rounded up to one more, or the unit is the least. -/
theorem Rounded.bounds (rounded : Rounded significand exponent q)
    (small : q < 2 ^ (exponent + 53)) :
    significand ≤ 2 ^ 53 ∧ (2 ^ 52 ≤ significand ∨ exponent = -1074) := by
  have unit : (0 : ℚ) < 2 ^ exponent := by positivity
  have high : (2 : ℚ) ^ (exponent + 53) = 2 ^ 53 * 2 ^ exponent := two_zpow_add exponent 53
  have low : (2 : ℚ) ^ (exponent + 52) = 2 ^ 52 * 2 ^ exponent := two_zpow_add exponent 52
  obtain ⟨above, below⟩ := abs_le.mp rounded.near
  constructor
  · rw [high, ← div_lt_iff₀ unit] at small
    have most : (significand : ℚ) < (2 ^ 53 + 1 : ℕ) := by
      push_cast
      linarith
    have most : significand < 2 ^ 53 + 1 := by exact_mod_cast most
    omega
  · refine rounded.large.symm.imp_left fun large => ?_
    rw [low, ← le_div_iff₀ unit] at large
    have least : ((2 ^ 52 : ℕ) : ℚ) < (significand + 1 : ℕ) := by
      push_cast
      linarith
    have least : 2 ^ 52 < significand + 1 := by exact_mod_cast least
    omega

theorem roundsTo_ofRatio (negative : Bool) (divisible : denominator ≠ 0) :
    RoundsTo (signed negative (numerator / denominator)) (ofRatio negative numerator denominator) := by
  by_cases given : numerator = 0
  · rw [ofRatio, if_pos given, given]
    refine roundsTo_finite negative fun other _ => ⟨?_, fun _ => .inr Even.zero⟩
    simp [worth]
  · generalize found : exponentOf numerator denominator = exponent
    have rounded := rounded_ratio given divisible found
    have small : (numerator / denominator : ℚ) < 2 ^ (exponent + 53) := by
      have positive : (0 : ℚ) < numerator / denominator := by positivity
      rw [exponentOf_eq given divisible] at found
      exact_mod_cast (Int.lt_zpow_iff_log_lt one_lt_two positive).mpr (by omega)
    obtain ⟨fits, full⟩ := rounded.bounds small
    simp only [ofRatio, if_neg given, found, Nat.pow_eq]
    split
    · rename_i carried
      rw [carried] at rounded
      exact rounded.roundsTo_carried negative
    · rename_i notCarried
      exact rounded.roundsTo negative (by omega) full

theorem roundsTo_ofInt (value : Int) : RoundsTo value (ofInt value) := by
  have size : (value : ℚ) = signed (decide (value < 0)) ((value.natAbs : ℚ) / (1 : ℕ)) := by
    rw [Nat.cast_one, div_one, Nat.cast_natAbs, signed]
    split
    · rename_i negative
      rw [abs_of_neg (of_decide_eq_true negative)]
      simp
    · rename_i nonneg
      rw [abs_of_nonneg (by simpa using nonneg)]
  rw [size]
  exact roundsTo_ofRatio _ one_ne_zero

end FieldCheck.Binary64
