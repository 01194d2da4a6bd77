import FieldCheck.Text.Ascii
import FieldCheck.Text.Category
import FieldCheck.Text.Numeral

namespace FieldCheck.Rules

/-- Whether there is at least one character and all are in the class. -/
def madeOf (member : Char → Bool) (text : List Char) : Bool :=
  !text.isEmpty && text.all member

def letterIn (unicode : Bool) (c : Char) : Bool :=
  if unicode then Text.isLetter c else Text.isAsciiLetter c

def numberIn (unicode : Bool) (c : Char) : Bool :=
  if unicode then Text.isNumber c else Text.isDigit c

def alpha (text : List Char) (unicode : Bool) : Bool :=
  madeOf (letterIn unicode) text

def alphaNumeric (text : List Char) (unicode : Bool) : Bool :=
  madeOf (fun c => letterIn unicode c || numberIn unicode c) text

def alphaDash (text : List Char) (unicode : Bool) : Bool :=
  madeOf (fun c => letterIn unicode c || numberIn unicode c || c == '-' || c == '_') text

def digit (text : List Char) (unicode : Bool) : Bool :=
  madeOf (numberIn unicode) text

/-- Letters, numbers, separators, and punctuation other than brackets and quotation
marks. -/
def isStandard (c : Char) : Bool :=
  Text.isLetter c || Text.isNumber c || Text.isSeparator c || Text.isConnector c ||
    Text.isDash c || Text.isOtherPunctuation c

def standardText (text : List Char) : Bool :=
  madeOf isStandard text

end FieldCheck.Rules
