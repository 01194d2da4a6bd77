import FieldCheck.Binary64.Shortest
import FieldCheck.Text.Numeral

namespace FieldCheck.Binary64

/-- How the digits of a number are laid out. The point stands after the first
`point` digits, so one tenth has the point at zero. -/
structure Layout where
  tie : Tie
  positional : Int → Bool
  wholeTail : List Char

def plain : Layout := ⟨.up, fun _ => true, []⟩

/-- From one hundred-thousandth to below ten to the sixteenth without an exponent. -/
def json : Layout := ⟨.even, fun point => -5 < point && point ≤ 16, ['.', '0']⟩

/-- Drops the zeros at the end, which only shift the exponent. -/
def trimZeros (digits : List Char) : List Char :=
  (digits.reverse.dropWhile (· == '0')).reverse

def Layout.place (layout : Layout) (digits : List Char) (point : Int) : List Char :=
  let count := digits.length
  if layout.positional point then
    if point ≤ 0 then '0' :: '.' :: List.replicate (-point).toNat '0' ++ digits
    else if count ≤ point.toNat then
      digits ++ List.replicate (point.toNat - count) '0' ++ layout.wholeTail
    else digits.take point.toNat ++ '.' :: digits.drop point.toNat
  else
    let power := point - 1
    let fraction := match digits.drop 1 with
      | [] => []
      | rest => '.' :: rest
    digits.take 1 ++ fraction ++ 'e' :: (if 0 ≤ power then '+' else '-') ::
      Text.writeNat power.natAbs

def Layout.magnitude (layout : Layout) (significand : Nat) (exponent : Int) : List Char :=
  if significand = 0 then '0' :: layout.wholeTail
  else
    let decimal := shortest layout.tie significand exponent
    let digits := Text.writeNat decimal.digits
    layout.place (trimZeros digits) (decimal.exponent + digits.length)

def write (layout : Layout) : Binary64 → List Char
  | .nan => "NaN".toList
  | .infinite false => "inf".toList
  | .infinite true => "-inf".toList
  | .finite false significand exponent _ => layout.magnitude significand exponent
  | .finite true significand exponent _ => '-' :: layout.magnitude significand exponent

/-- A decimal with an optional fraction and exponent, cut into its parts: the digits
before and after the point and the exponent. -/
structure Scientific where
  whole : List Char
  fraction : List Char
  exponent : Int

def Scientific.toBinary64 (parts : Scientific) (negative : Bool) : Binary64 :=
  ofDecimal negative (Text.valueOfDigits (parts.whole ++ parts.fraction))
    (parts.exponent - parts.fraction.length)

/-- An exponent after its mark: an optional sign and at least one digit. -/
def readExponent? (text : List Char) : Option Int :=
  match text with
  | '-' :: digits =>
      if Text.allDigits digits then some (-(Text.valueOfDigits digits : Int)) else none
  | '+' :: digits =>
      if Text.allDigits digits then some (Text.valueOfDigits digits : Int) else none
  | digits =>
      if Text.allDigits digits then some (Text.valueOfDigits digits : Int) else none

/-- A decimal may lack its whole part or its fraction, not both. -/
def readMagnitude? (text : List Char) : Option Scientific :=
  let whole := text.takeWhile Text.isDigit
  let afterWhole := text.dropWhile Text.isDigit
  let (fraction, tail) := match afterWhole with
    | '.' :: rest => (rest.takeWhile Text.isDigit, rest.dropWhile Text.isDigit)
    | _ => ([], afterWhole)
  if whole.isEmpty && fraction.isEmpty then none
  else
    match tail with
    | [] => some ⟨whole, fraction, 0⟩
    | mark :: rest =>
        if mark == 'e' || mark == 'E' then
          (readExponent? rest).map fun exponent => ⟨whole, fraction, exponent⟩
        else none

/-- Reads a signed decimal, or `inf`, `infinity` or `nan` in any case. -/
def read? (text : List Char) : Option Binary64 :=
  let (negative, magnitude) := match text with
    | '-' :: rest => (true, rest)
    | '+' :: rest => (false, rest)
    | _ => (false, text)
  let word := String.ofList (magnitude.map Char.toLower)
  if word = "nan" then some .nan
  else if word = "inf" ∨ word = "infinity" then some (.infinite negative)
  else (readMagnitude? magnitude).map (·.toBinary64 negative)

end FieldCheck.Binary64
