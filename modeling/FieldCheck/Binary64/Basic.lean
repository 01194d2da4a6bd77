namespace FieldCheck

/-! Binary floating-point numbers with 53-bit significands.

A finite number is kept as sign, significand and exponent, in the one way that
`Canonical` allows, so the two zeros are two numbers that compare equal. `ofRatio`
rounds an exact quotient to the nearest number, ties to the even significand.
-/

/-- The significand has exactly 53 bits unless the exponent is the least one, so
every magnitude is written in one way. -/
def Canonical (significand : Nat) (exponent : Int) : Prop :=
  significand < Nat.pow 2 53 ∧ -1074 ≤ exponent ∧ exponent ≤ 971 ∧
    (Nat.pow 2 52 ≤ significand ∨ exponent = -1074)

instance : Decidable (Canonical significand exponent) := by
  unfold Canonical
  infer_instance

/-- A number, an infinity, or the one value that stands for no number. A finite one
is worth `significand * 2 ^ exponent`, with its sign. -/
inductive Binary64 where
  | nan
  | infinite (negative : Bool)
  | finite (negative : Bool) (significand : Nat) (exponent : Int)
      (canonical : Canonical significand exponent)
deriving DecidableEq

namespace Binary64

def zero (negative : Bool) : Binary64 :=
  .finite negative 0 (-1074) (by decide)

instance : Inhabited Binary64 := ⟨zero false⟩

def isFinite : Binary64 → Bool
  | .finite .. => true
  | _ => false

def isZero : Binary64 → Bool
  | .finite _ significand _ _ => significand == 0
  | _ => false

/-- Numeric comparison: the zeros are equal and `nan` differs from everything. -/
def same : Binary64 → Binary64 → Bool
  | .nan, _ | _, .nan => false
  | left, right => (left.isZero && right.isZero) || decide (left = right)

instance : BEq Binary64 := ⟨same⟩

/-- The value of `significand * 2 ^ exponent`, or an infinity when that is out of
range. -/
def ofParts (negative : Bool) (significand : Nat) (exponent : Int) : Binary64 :=
  if canonical : Canonical significand exponent then
    .finite negative significand exponent canonical
  else .infinite negative

/-- The quotient rounded to the nearest natural number, a half to the even one. -/
def roundQuotient (numerator denominator : Nat) : Nat :=
  let quotient := numerator / denominator
  let twice := 2 * (numerator % denominator)
  if denominator < twice ∨ (twice = denominator ∧ quotient % 2 = 1) then quotient + 1
  else quotient

/-- The quotient `numerator / (denominator * 2 ^ exponent)` as a pair to divide. -/
def scale (numerator denominator : Nat) (exponent : Int) : Nat × Nat :=
  if 0 ≤ exponent then (numerator, denominator * Nat.pow 2 exponent.toNat)
  else (numerator * Nat.pow 2 (-exponent).toNat, denominator)

/-- The least exponent, not below -1074, that leaves the quotient under `2 ^ 53`. -/
def exponentOf (numerator denominator : Nat) : Int :=
  let guess : Int := (numerator.log2 : Int) - denominator.log2 - 52
  let (scaled, divisor) := scale numerator denominator guess
  max (-1074) (if scaled / divisor < Nat.pow 2 52 then guess - 1 else guess)

/-- The number nearest to `numerator / denominator`. A significand that rounds up
to `2 ^ 53` moves to the next exponent, and beyond the last one lies an infinity. -/
def ofRatio (negative : Bool) (numerator denominator : Nat) : Binary64 :=
  if numerator = 0 then zero negative
  else
    let exponent := exponentOf numerator denominator
    let (scaled, divisor) := scale numerator denominator exponent
    let significand := roundQuotient scaled divisor
    if significand = Nat.pow 2 53 then ofParts negative (Nat.pow 2 52) (exponent + 1)
    else ofParts negative significand exponent

/-- The number nearest to `digits * 10 ^ exponent`. Exponents far out of range are
settled by size alone. -/
def ofDecimal (negative : Bool) (digits : Nat) (exponent : Int) : Binary64 :=
  if digits = 0 then zero negative
  else if 400 < exponent then .infinite negative
  else if exponent + digits.log2 / 3 + 1 < -400 then zero negative
  else if 0 ≤ exponent then ofRatio negative (digits * Nat.pow 10 exponent.toNat) 1
  else ofRatio negative digits (Nat.pow 10 (-exponent).toNat)

def ofInt (value : Int) : Binary64 :=
  ofRatio (decide (value < 0)) value.natAbs 1

/-- The magnitude of a finite number as a quotient. -/
def ratio (significand : Nat) (exponent : Int) : Nat × Nat :=
  if 0 ≤ exponent then (significand * Nat.pow 2 exponent.toNat, 1)
  else (significand, Nat.pow 2 (-exponent).toNat)

end Binary64

end FieldCheck
