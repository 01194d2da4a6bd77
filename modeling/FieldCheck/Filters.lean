import FieldCheck.Rule
import FieldCheck.Text.Blank
import FieldCheck.Text.Casing

namespace FieldCheck.Filters

def onText (f : List Char → List Char) : Value → Value
  | .text content => .text (String.ofList (f content.toList))
  | value => value

def trim : Value → Value := onText Text.trim

def trimStart : Value → Value := onText Text.trimStart

def trimEnd : Value → Value := onText Text.trimEnd

def lowerCase : Value → Value := onText Text.lowerCase

def upperCase : Value → Value := onText Text.upperCase

def capitalize : Value → Value := onText Text.capitalize

/-- Words joined by single spaces, with nothing around them. -/
def collapseBlanks : Value → Value :=
  onText fun text => Text.joinWith [' '] (Text.words text)

end FieldCheck.Filters
