import FieldCheck.Text.Category.Letter
import FieldCheck.Text.Category.Number
import FieldCheck.Text.Category.Punctuation

namespace FieldCheck.Text

def isLetter (c : Char) : Bool := letterRanges.contains c.toNat

def isNumber (c : Char) : Bool := numberRanges.contains c.toNat

/-- The general category `Nd`: digits of every script. -/
def isDecimalDigit (c : Char) : Bool := decimalDigitRanges.contains c.toNat

def isSeparator (c : Char) : Bool := separatorRanges.contains c.toNat

def isConnector (c : Char) : Bool := connectorRanges.contains c.toNat

def isDash (c : Char) : Bool := dashRanges.contains c.toNat

def isOtherPunctuation (c : Char) : Bool := otherPunctuationRanges.contains c.toNat

end FieldCheck.Text
