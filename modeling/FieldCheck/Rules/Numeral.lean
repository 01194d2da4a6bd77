import FieldCheck.Contract
import FieldCheck.Text.Split

namespace FieldCheck.Rules

def dropMinus : List Char → List Char
  | '-' :: rest => rest
  | text => text

/-- After one minus sign at most: digits, or a separator with digits after it. -/
def numeric (text : List Char) (separator : Char) : Bool :=
  let body := dropMinus text
  match Text.splitOnce separator body with
  | none => !body.isEmpty && body.all Text.isDigit
  | some (whole, fraction) =>
      !fraction.isEmpty && whole.all Text.isDigit && fraction.all Text.isDigit

/-- Exact digit counts on the two sides of the point, where given. -/
structure DecimalFormat where
  wholeDigits : Option Nat
  places : Option Nat
deriving DecidableEq

namespace DecimalFormat

/-- No count, the places alone, or both counts. -/
def ofArguments : List String → DecimalFormat
  | [] => ⟨none, none⟩
  | [places] => ⟨none, readCount? places⟩
  | digits :: places :: _ => ⟨readCount? digits, readCount? places⟩

end DecimalFormat

/-- Digits, as many as `count` says, or at least one. -/
def digitsOf (part : List Char) (count : Option Nat) : Bool :=
  part.all Text.isDigit &&
    match count with
    | some count => part.length == count
    | none => !part.isEmpty

def decimal (text : List Char) (format : DecimalFormat) : Bool :=
  match Text.splitOnce '.' text with
  | none => false
  | some (whole, fraction) =>
      digitsOf whole format.wholeDigits && digitsOf fraction format.places

end FieldCheck.Rules
