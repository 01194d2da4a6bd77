import FieldCheck.Binary64.Shortest
import FieldCheck.Proofs.Binary64.Rounding

namespace FieldCheck.Binary64

/-! The decimal that the search for the fewest digits comes to.

Seventeen digits always suffice: the decimals of that many digits are so close that one of
the two next to a number is nearer to it than half the way to its neighbours. So the search
ends, and what it finds reads back as the number. For a whole number it ends at the grid of
ones at the latest, and no decimal that is whole reads back as anything but a whole number.
-/

variable {numerator denominator significand : Nat} {exponent : Int}

/-- Powers compare as two of them do, when their exponents are in that proportion. -/
theorem zpow_le_zpow_of_pow_le {small large : ℚ} (positive : 0 < small) (proper : 1 ≤ large)
    {height width : Nat} (nonzero : height ≠ 0) (known : small ^ height ≤ large ^ width)
    {power other : Int} (up : 0 ≤ power) (steep : width * power ≤ height * other) :
    small ^ power ≤ large ^ other := by
  obtain ⟨count, rfl⟩ := Int.eq_ofNat_of_zero_le up
  have largePositive : 0 < large := lt_of_lt_of_le one_pos proper
  refine le_of_pow_le_pow_left₀ nonzero (by positivity) ?_
  calc (small ^ (count : Int)) ^ height
      = (small ^ height) ^ count := by rw [zpow_natCast, ← pow_mul, ← pow_mul, mul_comm]
    _ ≤ (large ^ width) ^ count := by gcongr
    _ = large ^ (width * count : Int) := by
        rw [zpow_mul, zpow_natCast, zpow_natCast]
    _ ≤ large ^ (height * other : Int) := zpow_le_zpow_right₀ proper steep
    _ = (large ^ other) ^ height := by rw [mul_comm, zpow_mul, zpow_natCast]

/-- Ninety-three powers of two are under twenty-eight of ten, and fifty-nine of ten under a
hundred and ninety-six of two. -/
theorem two_zpow_le_ten_zpow {twos tens : Int} (growth : 28 * twos ≤ 93 * tens)
    (decay : 59 * twos ≤ 196 * tens) : (2 : ℚ) ^ twos ≤ 10 ^ tens := by
  by_cases up : 0 ≤ twos
  · exact zpow_le_zpow_of_pow_le (by norm_num) (by norm_num) (by norm_num : (93 : Nat) ≠ 0)
      (by norm_num : (2 : ℚ) ^ 93 ≤ 10 ^ 28) up growth
  by_cases down : 0 ≤ -tens
  · have inverse : (10 : ℚ) ^ (-tens) ≤ 2 ^ (-twos) :=
      zpow_le_zpow_of_pow_le (by norm_num) (by norm_num) (by norm_num : (59 : Nat) ≠ 0)
        (by norm_num : (10 : ℚ) ^ 59 ≤ 2 ^ 196) down (by push_cast; omega)
    rwa [zpow_neg, zpow_neg, inv_le_inv₀ (by positivity) (by positivity)] at inverse
  · calc (2 : ℚ) ^ twos ≤ 2 ^ (0 : Int) := zpow_le_zpow_right₀ (by norm_num) (by omega)
      _ = 10 ^ (0 : Int) := rfl
      _ ≤ 10 ^ tens := zpow_le_zpow_right₀ (by norm_num) (by omega)

theorem ten_zpow_le_two_zpow {twos tens : Int} (growth : 93 * tens ≤ 28 * twos)
    (decay : 196 * tens ≤ 59 * twos) : (10 : ℚ) ^ tens ≤ 2 ^ twos := by
  have inverse : (2 : ℚ) ^ (-twos) ≤ 10 ^ (-tens) := two_zpow_le_ten_zpow (by omega) (by omega)
  rwa [zpow_neg, zpow_neg, inv_le_inv₀ (by positivity) (by positivity)] at inverse

theorem below_iff (divisible : denominator ≠ 0) {power : Int} :
    below numerator denominator power = true ↔ (numerator / denominator : ℚ) < 10 ^ power := by
  have positive : (0 : ℚ) < denominator := by exact_mod_cast Nat.pos_of_ne_zero divisible
  rw [below, div_lt_iff₀ positive]
  split
  · rename_i up
    rw [decide_eq_true_eq, ← Nat.cast_lt (α := ℚ), zpow_of_nonneg _ up]
    simp [mul_comm]
  · rename_i down
    rw [decide_eq_true_eq, ← Nat.cast_lt (α := ℚ), zpow_of_neg _ down, inv_mul_eq_div,
      lt_div_iff₀ (by positivity)]
    simp

/-- The point stands behind the leading digit of the quotient, unless the quotient is very
large or very small. -/
theorem pointOf_eq (given : numerator ≠ 0) (divisible : denominator ≠ 0)
    (least : (2 : ℚ) ^ (-1074 : Int) ≤ numerator / denominator)
    (most : (numerator / denominator : ℚ) < 2 ^ (1024 : Int)) :
    pointOf numerator denominator = Int.log 10 (numerator / denominator : ℚ) + 1 := by
  obtain ⟨low, high⟩ := quotient_bounds given divisible
  have atLeast : (-1074 : Int) < numerator.log2 - denominator.log2 + 1 :=
    (zpow_lt_zpow_iff_right₀ one_lt_two).mp (least.trans_lt high)
  have atMost : (numerator.log2 - denominator.log2 - 1 : Int) < 1024 :=
    (zpow_lt_zpow_iff_right₀ one_lt_two).mp (low.trans most)
  simp only [pointOf, below_iff divisible]
  generalize guessed : ((numerator.log2 : Int) - denominator.log2 - 1) * 30103 / 100000 = guess
  -- The guess is at most one digit too high and at most two too low.
  have notHigh : (10 : ℚ) ^ (guess - 1) ≤ numerator / denominator :=
    (ten_zpow_le_two_zpow (by omega) (by omega)).trans low.le
  have notLow : (numerator / denominator : ℚ) < 10 ^ (guess + 2) :=
    high.trans_le (two_zpow_le_ten_zpow (by omega) (by omega))
  have positive : (0 : ℚ) < numerator / denominator := by positivity
  suffices log : ∀ point : Int, (10 : ℚ) ^ (point - 1) ≤ numerator / denominator →
      (numerator / denominator : ℚ) < 10 ^ point →
      point = Int.log 10 (numerator / denominator : ℚ) + 1 by
    split_ifs with first second
    · exact log guess notHigh first
    · exact log (guess + 1) (by simpa using first) second
    · exact log (guess + 2) (by rw [add_sub_assoc]; simpa using second) notLow
  intro point lower upper
  have exact : Int.log 10 (numerator / denominator : ℚ) = point - 1 := by
    rw [log_eq_iff (by norm_num) positive, sub_add_cancel]
    exact ⟨by exact_mod_cast lower, by exact_mod_cast upper⟩
  omega

theorem ratio_quotient (significand : Nat) (exponent : Int) :
    ((ratio significand exponent).1 : ℚ) / (ratio significand exponent).2 =
      worth significand exponent := by
  rw [ratio, worth]
  split
  · rename_i up
    simp [zpow_of_nonneg _ up]
  · rename_i down
    simp [zpow_of_neg _ down, div_eq_mul_inv]

theorem ratio_ne_zero (given : significand ≠ 0) (exponent : Int) :
    (ratio significand exponent).1 ≠ 0 ∧ (ratio significand exponent).2 ≠ 0 := by
  rw [ratio]
  split <;> simp [given]

theorem worth_bounds (canonical : Canonical significand exponent) (given : significand ≠ 0) :
    (2 : ℚ) ^ (-1074 : Int) ≤ worth significand exponent ∧
      worth significand exponent < 2 ^ (1024 : Int) := by
  obtain ⟨small, least, most, -⟩ := canonical
  rw [Nat.pow_eq] at small
  have atLeast : (1 : ℚ) ≤ significand := by exact_mod_cast Nat.one_le_iff_ne_zero.mpr given
  have atMost : (significand : ℚ) < 2 ^ 53 := by exact_mod_cast small
  rw [worth]
  constructor
  · calc (2 : ℚ) ^ (-1074 : Int) ≤ 2 ^ exponent := zpow_le_zpow_right₀ one_le_two least
      _ ≤ significand * 2 ^ exponent := le_mul_of_one_le_left (by positivity) atLeast
  · calc (significand : ℚ) * 2 ^ exponent
        < 2 ^ 53 * 2 ^ exponent := by gcongr
      _ = 2 ^ (exponent + 53) := (two_zpow_add exponent 53).symm
      _ ≤ 2 ^ (1024 : Int) := zpow_le_zpow_right₀ one_le_two (by omega)

def pointOfParts (significand : Nat) (exponent : Int) : Int :=
  Int.log 10 (worth significand exponent) + 1

theorem pointOf_ratio (canonical : Canonical significand exponent) (given : significand ≠ 0) :
    pointOf (ratio significand exponent).1 (ratio significand exponent).2 =
      pointOfParts significand exponent := by
  obtain ⟨numerator, denominator⟩ := ratio_ne_zero given exponent
  obtain ⟨least, most⟩ := worth_bounds canonical given
  rw [← ratio_quotient] at least most
  rw [pointOf_eq numerator denominator least most, ratio_quotient, pointOfParts]

theorem pointOfParts_bounds (canonical : Canonical significand exponent) (given : significand ≠ 0) :
    -323 ≤ pointOfParts significand exponent ∧ pointOfParts significand exponent ≤ 309 := by
  have positive := worth_pos given exponent
  obtain ⟨least, most⟩ := worth_bounds canonical given
  have lower : -324 ≤ Int.log 10 (worth significand exponent) := by
    rw [← Int.zpow_le_iff_le_log (by norm_num) positive]
    exact (ten_zpow_le_two_zpow (by norm_num) (by norm_num)).trans least
  have upper : Int.log 10 (worth significand exponent) < 309 := by
    rw [← Int.lt_zpow_iff_log_lt (by norm_num) positive]
    exact most.trans_le (two_zpow_le_ten_zpow (by norm_num) (by norm_num))
  rw [pointOfParts]
  omega

theorem scaled_div_eq_floor (exponent : Int) :
    (if 0 ≤ exponent then numerator else numerator * Nat.pow 10 (-exponent).toNat) /
        (if 0 ≤ exponent then denominator * Nat.pow 10 exponent.toNat else denominator) =
      ⌊(numerator / denominator / 10 ^ exponent : ℚ)⌋₊ := by
  rw [← Nat.floor_div_eq_div (K := ℚ)]
  split
  · rename_i up
    simp [zpow_of_nonneg _ up, div_div]
  · rename_i down
    simp [zpow_of_neg _ down, mul_div_right_comm]

variable {tie : Tie} {number : Binary64} {decimal : Decimal}

theorem reads_of_neighbour?
    (found : neighbour? tie number numerator denominator exponent = some decimal) :
    decimal.exponent = exponent ∧ ofDecimal false decimal.digits exponent = number := by
  simp only [neighbour?] at found
  split at found
  · cases found
  · rename_i reads _
    cases found
    exact ⟨rfl, of_decide_eq_true reads⟩
  · rename_i reads
    cases found
    exact ⟨rfl, of_decide_eq_true reads⟩
  · rename_i readsLower readsUpper
    rcases ite_eq_iff.mp found with ⟨-, same⟩ | ⟨-, same⟩
    · cases same
      exact ⟨rfl, of_decide_eq_true readsLower⟩
    · cases same
      exact ⟨rfl, of_decide_eq_true readsUpper⟩

theorem exists_neighbour? {digits : Nat}
    (adjacent : digits = ⌊(numerator / denominator / 10 ^ exponent : ℚ)⌋₊ ∨
      digits = ⌊(numerator / denominator / 10 ^ exponent : ℚ)⌋₊ + 1)
    (reads : ofDecimal false digits exponent = number) :
    neighbour? tie number numerator denominator exponent ≠ none := by
  rw [← scaled_div_eq_floor] at adjacent
  simp only [neighbour?]
  split
  · rename_i missedLower missedUpper
    rcases adjacent with rfl | rfl
    · exact absurd reads (of_decide_eq_false missedLower)
    · exact absurd reads (of_decide_eq_false missedUpper)
  · exact Option.some_ne_none _
  · exact Option.some_ne_none _
  · intro missing
    rcases ite_eq_iff.mp missing with ⟨-, same⟩ | ⟨-, same⟩ <;> cases same

/-- Within half a unit of the seventeenth digit of a number nothing rounds away from it. -/
theorem near_of_close (canonical : Canonical significand exponent) {unit q : ℚ}
    (fine : unit * 10 ^ 16 ≤ worth significand exponent)
    (above : q ≤ worth significand exponent + unit / 2)
    (below : worth significand exponent - unit / 2 ≤ q) : Near significand exponent q := by
  obtain ⟨small, -⟩ := canonical
  have atMost : (significand : ℚ) + 1 ≤ 2 ^ 53 := by
    rw [Nat.pow_eq] at small
    exact_mod_cast small
  have positive : (0 : ℚ) < 2 ^ exponent := by positivity
  rw [worth] at fine
  have less : unit < 2 ^ exponent := by nlinarith
  refine ⟨by linarith, by linarith, ?_⟩
  rintro rfl
  have half : unit < 2 ^ exponent / 2 := by
    push_cast at fine
    linarith
  linarith

theorem exists_near_digits (canonical : Canonical significand exponent) {power : Int}
    (fine : (10 : ℚ) ^ power * 10 ^ 16 ≤ worth significand exponent) :
    ∃ digits : Nat, (digits = ⌊worth significand exponent / 10 ^ power⌋₊ ∨
        digits = ⌊worth significand exponent / 10 ^ power⌋₊ + 1) ∧
      Near significand exponent (digits * 10 ^ power) := by
  have unit : (0 : ℚ) < 10 ^ power := by positivity
  have quotient : (0 : ℚ) ≤ worth significand exponent / 10 ^ power := by
    have atLeast : (0 : ℚ) ≤ worth significand exponent := by rw [worth]; positivity
    positivity
  have low := Nat.floor_le quotient
  have high := Nat.lt_floor_add_one (worth significand exponent / 10 ^ power)
  rw [le_div_iff₀ unit] at low
  rw [div_lt_iff₀ unit] at high
  generalize ⌊worth significand exponent / 10 ^ power⌋₊ = lower at low high ⊢
  by_cases near : worth significand exponent - lower * 10 ^ power ≤ 10 ^ power / 2
  · exact ⟨lower, .inl rfl, near_of_close canonical fine (by linarith) (by linarith)⟩
  · refine ⟨lower + 1, .inr rfl, near_of_close canonical fine ?_ ?_⟩
    · push_cast
      linarith
    · push_cast
      linarith

/-- A search that ends has passed over all grids before the one that it ends at. -/
theorem exists_grid_of_searchGrids {point : Int} {count steps : Nat}
    (found : searchGrids tie number numerator denominator point count steps = some decimal) :
    ∃ last, count ≤ last ∧
      neighbour? tie number numerator denominator (point - last) = some decimal ∧
      ∀ earlier : Nat, count ≤ earlier → earlier < last →
        neighbour? tie number numerator denominator (point - earlier) = none := by
  induction steps generalizing count with
  | zero => cases found
  | succ steps stepsIH =>
      rw [searchGrids] at found
      split at found
      · rename_i hit
        cases found
        exact ⟨count, le_rfl, hit, fun earlier least most => absurd most (by omega)⟩
      · rename_i missed
        obtain ⟨last, later, hit, passed⟩ := stepsIH found
        refine ⟨last, by omega, hit, fun earlier least most => ?_⟩
        rcases Nat.eq_or_lt_of_le least with rfl | after
        · exact missed
        · exact passed earlier after most

theorem exists_searchGrids {point : Int} {count steps last : Nat} (reached : count ≤ last)
    (within : last < count + steps)
    (hit : neighbour? tie number numerator denominator (point - last) ≠ none) :
    ∃ decimal, searchGrids tie number numerator denominator point count steps = some decimal := by
  induction steps generalizing count with
  | zero => omega
  | succ steps stepsIH =>
      rw [searchGrids]
      split
      · exact ⟨_, rfl⟩
      · rename_i missed
        rcases Nat.eq_or_lt_of_le reached with rfl | after
        · exact absurd missed hit
        · exact stepsIH after (by omega)

theorem hits_of_near (canonical : Canonical significand exponent) (given : significand ≠ 0)
    {power : Int} (least : -400 ≤ power) (most : power ≤ 400) {digits : Nat}
    (adjacent : digits = ⌊worth significand exponent / 10 ^ power⌋₊ ∨
      digits = ⌊worth significand exponent / 10 ^ power⌋₊ + 1)
    (near : Near significand exponent (digits * 10 ^ power)) :
    neighbour? tie (ofParts false significand exponent) (ratio significand exponent).1
      (ratio significand exponent).2 power ≠ none := by
  refine exists_neighbour? ?_ (ofDecimal_eq_of_near false canonical given least most near)
  rwa [ratio_quotient]

theorem hits_seventeen_digits (tie : Tie) (canonical : Canonical significand exponent)
    (given : significand ≠ 0) :
    neighbour? tie (ofParts false significand exponent) (ratio significand exponent).1
      (ratio significand exponent).2 (pointOfParts significand exponent - 17) ≠ none := by
  obtain ⟨least, most⟩ := pointOfParts_bounds canonical given
  have fine : (10 : ℚ) ^ (pointOfParts significand exponent - 17) * 10 ^ 16 ≤
      worth significand exponent := by
    have lead := Int.zpow_log_le_self (b := 10) (by norm_num) (worth_pos given exponent)
    have places : pointOfParts significand exponent - 17 + (16 : Nat) =
        Int.log 10 (worth significand exponent) := by
      rw [pointOfParts]
      omega
    rw [← zpow_natCast, ← zpow_add₀ (by norm_num), places]
    exact_mod_cast lead
  obtain ⟨digits, adjacent, near⟩ := exists_near_digits canonical fine
  exact hits_of_near canonical given (by omega) (by omega) adjacent near

/-- The search comes to a decimal that reads back, and no coarser grid has one. -/
theorem shortest_spec (tie : Tie) (canonical : Canonical significand exponent)
    (given : significand ≠ 0) :
    ofDecimal false (shortest tie significand exponent).digits
        (shortest tie significand exponent).exponent = ofParts false significand exponent ∧
      ∃ last : Nat, 1 ≤ last ∧
        (shortest tie significand exponent).exponent = pointOfParts significand exponent - last ∧
        ∀ earlier : Nat, 1 ≤ earlier → earlier < last →
          neighbour? tie (ofParts false significand exponent) (ratio significand exponent).1
            (ratio significand exponent).2 (pointOfParts significand exponent - earlier) = none := by
  obtain ⟨decimal, found⟩ := exists_searchGrids (show 1 ≤ 17 by norm_num)
    (show 17 < 1 + 17 by norm_num) (hits_seventeen_digits tie canonical given)
  obtain ⟨last, least, hit, passed⟩ := exists_grid_of_searchGrids found
  obtain ⟨atGrid, reads⟩ := reads_of_neighbour? hit
  have shortestEq : shortest tie significand exponent = decimal := by
    simp only [shortest, pointOf_ratio canonical given, found, Option.getD_some]
  rw [shortestEq, atGrid]
  exact ⟨reads, last, least, rfl, passed⟩

theorem digits_shortest_ne_zero (tie : Tie) (canonical : Canonical significand exponent)
    (given : significand ≠ 0) : (shortest tie significand exponent).digits ≠ 0 := by
  obtain ⟨reads, -⟩ := shortest_spec tie canonical given
  intro noDigits
  rw [noDigits, ofDecimal, if_pos rfl, zero, ofParts, dif_pos canonical] at reads
  cases reads
  exact given rfl

/-- On the grid of ones a whole number is its own neighbour. -/
theorem exponent_shortest_nonneg (tie : Tie) (canonical : Canonical significand exponent)
    (given : significand ≠ 0) (whole : Whole significand exponent) :
    0 ≤ (shortest tie significand exponent).exponent := by
  obtain ⟨count, worthEq⟩ := whole
  obtain ⟨-, last, -, atGrid, passed⟩ := shortest_spec tie canonical given
  have point : 1 ≤ pointOfParts significand exponent := by
    have positive := worth_pos given exponent
    have atLeast : ((10 : Nat) : ℚ) ^ (0 : Int) ≤ worth significand exponent := by
      rw [worthEq] at positive ⊢
      have one : 1 ≤ count := by exact_mod_cast positive
      simpa using one
    have log := (Int.zpow_le_iff_le_log (by norm_num) positive).mp atLeast
    rw [pointOfParts]
    omega
  by_contra negative
  have ahead : 0 ≤ pointOfParts significand exponent := by omega
  obtain ⟨ones, pointEq⟩ := Int.eq_ofNat_of_zero_le ahead
  have missed := passed ones (by omega) (by omega)
  rw [pointEq, Int.sub_self] at missed
  have atCount : count = ⌊worth significand exponent / 10 ^ (0 : Int)⌋₊ := by simp [worthEq]
  have near : Near significand exponent (count * 10 ^ (0 : Int)) := by
    simpa [worthEq] using near_worth significand exponent
  exact hits_of_near canonical given (by norm_num) (by norm_num) (.inl atCount) near missed

/-- A number is whole when its decimal is. -/
theorem whole_iff_dvd (tie : Tie) (canonical : Canonical significand exponent)
    (given : significand ≠ 0) : Whole significand exponent ↔
      10 ^ (-(shortest tie significand exponent).exponent).toNat ∣
        (shortest tie significand exponent).digits := by
  constructor
  · intro whole
    have up := exponent_shortest_nonneg tie canonical given whole
    have noPlaces : (-(shortest tie significand exponent).exponent).toNat = 0 := by omega
    rw [noPlaces, pow_zero]
    exact one_dvd _
  · intro divides
    exact whole_of_ofDecimal_eq canonical divides (shortest_spec tie canonical given).1

end FieldCheck.Binary64
