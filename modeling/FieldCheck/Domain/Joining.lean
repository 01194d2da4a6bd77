import FieldCheck.Domain.Joining.Classes
import FieldCheck.Text.Canonical

namespace FieldCheck.Domain

/-- Keeps two letters from joining. -/
def nonJoiner : Char := '\u200C'

/-- Makes a letter join. -/
def joiner : Char := '\u200D'

/-- The combining class of the signs that take the vowel off a consonant. -/
def viramaClass : Nat := 9

def joiningOf? (c : Char) : Option Joining :=
  Text.CodeTable.get? joiningTypes c.toNat

/-- Whether the first character that joining does not look through is of a wanted
type. -/
def reaches (wanted : List Joining) (text : List Char) : Bool :=
  match text.dropWhile (joiningOf? · == some .transparent) with
  | c :: _ => (joiningOf? c).any wanted.contains
  | [] => false

/-- A joiner has its place after a virama. The non-joiner also has one between two
letters that would join. `before` has the nearest character first. -/
def joinerFits (c : Char) (before after : List Char) : Bool :=
  before.head?.any (Text.combiningClass · == viramaClass) ||
    (c == nonJoiner && reaches [.left, .both] before && reaches [.right, .both] after)

/-- Whether all joiners of a text have their place, after `before`. -/
def joinersFit (before : List Char) : List Char → Bool
  | [] => true
  | c :: rest =>
      ((c != joiner && c != nonJoiner) || joinerFits c before rest) &&
        joinersFit (c :: before) rest

end FieldCheck.Domain
