import FieldCheck.Domain.Mapping.Expansions
import FieldCheck.Domain.Mapping.Refused
import FieldCheck.Domain.Mapping.Shifts
import FieldCheck.Text.Canonical
import FieldCheck.Text.Casing

namespace FieldCheck.Domain

def mapping : Text.CodeMap :=
  ⟨earlierShifts ++ laterShifts, mappedExpansions ++ mappedLigatures⟩

/-- What a character maps to, or nothing for one that no name may hold. -/
def mapCharacter? (c : Char) : Option (List Char) :=
  if disallowedRanges.contains c.toNat then none
  else if ignoredRanges.contains c.toNat then some []
  else some ((mapping.get? c).getD (Text.lowerOf c))

def mapText? (text : List Char) : Option (List Char) :=
  (text.mapM mapCharacter?).map fun mapped => Text.canonical mapped.flatten

/-- Whether a text consists of mapped characters, composed. -/
def isMapped (text : List Char) : Bool :=
  mapText? text == some text

end FieldCheck.Domain
