namespace FieldCheck.Text

def hexValue? (c : Char) : Option Nat :=
  if '0' ≤ c ∧ c ≤ '9' then some (c.toNat - 48)
  else if 'a' ≤ c ∧ c ≤ 'f' then some (c.toNat - 87)
  else if 'A' ≤ c ∧ c ≤ 'F' then some (c.toNat - 55)
  else none

/-- The value of a string of digits, or nothing if one of the characters is no digit. -/
def valueOfHex? (text : List Char) : Option Nat :=
  (text.mapM hexValue?).map fun digits =>
    digits.foldl (fun value digit => value * 16 + digit) 0

end FieldCheck.Text
