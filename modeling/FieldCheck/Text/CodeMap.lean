namespace FieldCheck.Text

/-- The characters `first`, `first + step`, up to `last`, each of which maps to the
character `offset` further on. -/
structure CodeShift where
  first : Nat
  last : Nat
  step : Nat
  offset : Int

namespace CodeShift

def contains (shift : CodeShift) (code : Nat) : Bool :=
  shift.first ≤ code && code ≤ shift.last && (code - shift.first) % shift.step == 0

def move (shift : CodeShift) (code : Nat) : Nat :=
  (code + shift.offset).toNat

end CodeShift

/-- `expansions` go before `shifts`. -/
structure CodeMap where
  shifts : List CodeShift
  expansions : List (Nat × List Nat)

namespace CodeMap

/-- What a character maps to, if the mapping says anything about it. -/
def get? (map : CodeMap) (c : Char) : Option (List Char) :=
  match map.expansions.lookup c.toNat with
  | some codes => some (codes.map Char.ofNat)
  | none =>
      match map.shifts.find? (·.contains c.toNat) with
      | some shift => some [Char.ofNat (shift.move c.toNat)]
      | none => none

/-- A character that the mapping does not mention stays as it is. -/
def of (map : CodeMap) (c : Char) : List Char :=
  (map.get? c).getD [c]

end CodeMap

end FieldCheck.Text
