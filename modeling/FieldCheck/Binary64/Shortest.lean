import FieldCheck.Binary64.Basic

namespace FieldCheck.Binary64

/-! The fewest decimal digits that read back as a given number.

A decimal is `digits * 10 ^ exponent`. For one digit, two digits and so on, only the
two neighbours of the number on the grid of that many digits are tried: if any point
of the grid reads back, one of the two does.
-/

/-- Which of two equally near decimals is taken. -/
inductive Tie where
  | up
  | even
deriving DecidableEq

structure Decimal where
  digits : Nat
  exponent : Int
deriving DecidableEq

def below (numerator denominator : Nat) (power : Int) : Bool :=
  if 0 ≤ power then numerator < denominator * Nat.pow 10 power.toNat
  else numerator * Nat.pow 10 (-power).toNat < denominator

/-- The position of the decimal point: the least `power` for which the quotient is
under `10 ^ power`. Five digits of the logarithm of two settle it but for two steps. -/
def pointOf (numerator denominator : Nat) : Int :=
  let guess := ((numerator.log2 : Int) - denominator.log2 - 1) * 30103 / 100000
  if below numerator denominator guess then guess
  else if below numerator denominator (guess + 1) then guess + 1
  else guess + 2

/-- The neighbour of the quotient, on the grid of multiples of `10 ^ exponent`, that
reads back as the given number; of two, the nearer one. -/
def neighbour? (tie : Tie) (number : Binary64) (numerator denominator : Nat)
    (exponent : Int) : Option Decimal :=
  let scaled := if 0 ≤ exponent then numerator else numerator * Nat.pow 10 (-exponent).toNat
  let divisor := if 0 ≤ exponent then denominator * Nat.pow 10 exponent.toNat else denominator
  let lower := scaled / divisor
  let twice := 2 * (scaled % divisor)
  let readsBack (digits : Nat) : Bool := ofDecimal false digits exponent = number
  match readsBack lower, readsBack (lower + 1) with
  | false, false => none
  | true, false => some ⟨lower, exponent⟩
  | false, true => some ⟨lower + 1, exponent⟩
  | true, true =>
      if twice < divisor ∨ (twice = divisor ∧ tie = .even ∧ lower % 2 = 0) then
        some ⟨lower, exponent⟩
      else some ⟨lower + 1, exponent⟩

/-- Tries grids of `count` digits, one more, and so on, `steps` in all. -/
def searchGrids (tie : Tie) (number : Binary64) (numerator denominator : Nat)
    (point : Int) (count : Nat) : Nat → Option Decimal
  | 0 => none
  | steps + 1 =>
      match neighbour? tie number numerator denominator (point - count) with
      | some decimal => some decimal
      | none => searchGrids tie number numerator denominator point (count + 1) steps

/-- The shortest decimal for a magnitude. Seventeen digits always suffice. -/
def shortest (tie : Tie) (significand : Nat) (exponent : Int) : Decimal :=
  let (numerator, denominator) := ratio significand exponent
  let point := pointOf numerator denominator
  let number := ofParts false significand exponent
  (searchGrids tie number numerator denominator point 1 17).getD ⟨0, 0⟩

end FieldCheck.Binary64
