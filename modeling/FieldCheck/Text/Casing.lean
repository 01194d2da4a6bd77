import FieldCheck.Text.CodeRange
import FieldCheck.Text.Casing.Upper
import FieldCheck.Text.Casing.Lower
import FieldCheck.Text.Casing.Surroundings

namespace FieldCheck.Text

def upperMap : CodeMap := ⟨upperShifts, upperExpansions⟩

def lowerMap : CodeMap := ⟨lowerShifts, lowerExpansions⟩

def upperOf (c : Char) : List Char := upperMap.of c

/-- The lower case of a character on its own. -/
def lowerOf (c : Char) : List Char := lowerMap.of c

def isCased (c : Char) : Bool := casedRanges.contains c.toNat

def isCaseIgnorable (c : Char) : Bool := caseIgnorableRanges.contains c.toNat

/-- Whether the text runs into a cased character, looking through ignorable ones. -/
def startsCased (text : List Char) : Bool :=
  match text.dropWhile isCaseIgnorable with
  | c :: _ => isCased c
  | [] => false

/-- The capital sigma, the one letter whose lower case depends on what stands
around it. -/
def capitalSigma : Char := 'Σ'

/-- The lower case of a capital sigma after `before` (nearest character first) and
in front of `after`. -/
def lowerSigma (before after : List Char) : Char :=
  if startsCased before && !startsCased after then 'ς' else 'σ'

def upperCase (text : List Char) : List Char :=
  text.flatMap upperOf

/-- Lowers `text`, which follows `before` (nearest character first). -/
def lowerCaseAfter (before : List Char) : List Char → List Char
  | [] => []
  | c :: rest =>
      (if c = capitalSigma then [lowerSigma before rest] else lowerOf c) ++
        lowerCaseAfter (c :: before) rest

def lowerCase (text : List Char) : List Char :=
  lowerCaseAfter [] text

/-- Only the first character changes, to its upper case. -/
def capitalize : List Char → List Char
  | [] => []
  | c :: rest => upperOf c ++ rest

end FieldCheck.Text
