import FieldCheck.Text.Quoted.Invisible

namespace FieldCheck.Text

def hexCode (c : Char) : List Char :=
  "\\u\x7b".toList ++ Nat.toDigits 16 c.toNat ++ ['\x7d']

/-- The quotation mark `mark` is escaped, the other one is not. -/
def quoteChar (mark : Char) (c : Char) : List Char :=
  if c = mark ∨ c = '\\' then ['\\', c]
  else if c = '\x00' then ['\\', '0']
  else if c = '\t' then ['\\', 't']
  else if c = '\n' then ['\\', 'n']
  else if c = '\r' then ['\\', 'r']
  else if graphemeExtendRanges.contains c.toNat || unprintableRanges.contains c.toNat then
    hexCode c
  else [c]

def quoteWith (mark : Char) (text : List Char) : List Char :=
  mark :: text.flatMap (quoteChar mark) ++ [mark]

def quoted (text : String) : String :=
  String.ofList (quoteWith '"' text.toList)

def quotedChar (c : Char) : String :=
  String.ofList (quoteWith '\x27' [c])

end FieldCheck.Text
