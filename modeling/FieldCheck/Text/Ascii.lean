namespace FieldCheck.Text

def isAscii (c : Char) : Bool := c.toNat < 0x80

def isAsciiLetter (c : Char) : Bool :=
  ('a' ≤ c && c ≤ 'z') || ('A' ≤ c && c ≤ 'Z')

/-- Lowers A to Z and leaves every other character as it is. -/
def asciiLower (c : Char) : Char :=
  if 'A' ≤ c ∧ c ≤ 'Z' then Char.ofNat (c.toNat + 32) else c

end FieldCheck.Text
