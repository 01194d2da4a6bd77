import FieldCheck.Text.Numeral

namespace FieldCheck.Rules

def digitCount (text : List Char) : Nat :=
  text.countP Text.isDigit

def phone (text : List Char) (lengths : List Nat) : Bool :=
  lengths.contains (digitCount text)

end FieldCheck.Rules
