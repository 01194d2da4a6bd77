import FieldCheck.Rules.CharacterClass
import FieldCheck.Text.Split

namespace FieldCheck.Rules

/-! Everyday e-mail addresses: words joined by dots, an at sign, a host name with a
short last label or four groups of digits, and perhaps a port.

Neither side of the at sign can hold another one, and no host can hold a colon, so the
text is cut at the first at sign and what follows at its first colon.
-/

/-- Letters of ASCII in either case, and the two further characters that differ from
one of them by case alone: the long s and the Kelvin sign. -/
def isFoldedLetter (c : Char) : Bool :=
  Text.isAsciiLetter c || c == '\u017F' || c == '\u212A'

def isAlphanumeric (c : Char) : Bool :=
  isFoldedLetter c || Text.isDigit c

def isWordCharacter (c : Char) : Bool :=
  isAlphanumeric c || "-_'+*$^&%=~!?\x7b\x7d".toList.contains c

def isHostCharacter (c : Char) : Bool :=
  isAlphanumeric c || c == '-' || c == '.'

/-- Words joined by single dots. -/
def isLocalPart (text : List Char) : Bool :=
  (Text.splitWhere (· == '.') text).all (madeOf isWordCharacter)

/-- A letter or digit at either end, and hyphens and dots between. -/
def isHostBody (text : List Char) : Bool :=
  text.all isHostCharacter &&
    match text.head?, text.getLast? with
    | some first, some last => isAlphanumeric first && isAlphanumeric last
    | _, _ => false

/-- Two to six letters. -/
def isTopLabel (text : List Char) : Bool :=
  2 ≤ text.length && text.length ≤ 6 && text.all isFoldedLetter

def isHostName (text : List Char) : Bool :=
  match Text.splitLast '.' text with
  | some (body, top) => isHostBody body && isTopLabel top
  | none => false

/-- One to three digits of any script. -/
def isDigitGroup (text : List Char) : Bool :=
  1 ≤ text.length && text.length ≤ 3 && text.all Text.isDecimalDigit

/-- Four groups of digits joined by dots. Their values do not count. -/
def isQuad (text : List Char) : Bool :=
  let groups := Text.splitWhere (· == '.') text
  groups.length == 4 && groups.all isDigitGroup

def isPort (text : List Char) : Bool :=
  madeOf Text.isDecimalDigit text

def isHostAndPort (text : List Char) : Bool :=
  match Text.splitOnce ':' text with
  | some (host, port) => (isHostName host || isQuad host) && isPort port
  | none => isHostName text || isQuad text

def email (text : List Char) : Bool :=
  match Text.splitOnce '@' text with
  | some (localPart, domain) => isLocalPart localPart && isHostAndPort domain
  | none => false

/-- What follows the first at sign, or the whole text when there is none. -/
def domainOf (text : List Char) : List Char :=
  match Text.splitOnce '@' text with
  | some (_, domain) => domain
  | none => text

end FieldCheck.Rules
