namespace FieldCheck.Text

def isDigit (c : Char) : Bool := '0' ≤ c && c ≤ '9'

def digitValue (c : Char) : Nat := c.toNat - 48

/-- The number that a string of digits stands for, leading zeros allowed. -/
def valueOfDigits (digits : List Char) : Nat :=
  digits.foldl (fun value c => 10 * value + digitValue c) 0

def allDigits (text : List Char) : Bool :=
  !text.isEmpty && text.all isDigit

/-- The largest number that an argument or a length may have. -/
def maxWord : Nat := Nat.pow 2 64 - 1

/-- Reads digits after an optional plus sign, up to `maxWord`. -/
def readWord? (text : List Char) : Option Nat :=
  let digits := match text with
    | '+' :: rest => rest
    | _ => text
  if allDigits digits then
    let value := valueOfDigits digits
    if value ≤ maxWord then some value else none
  else none

def writeNat (value : Nat) : List Char :=
  Nat.toDigits 10 value

def writeInt : Int → List Char
  | .ofNat value => writeNat value
  | .negSucc value => '-' :: writeNat (value + 1)

end FieldCheck.Text
