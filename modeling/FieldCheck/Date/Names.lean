import FieldCheck.Text.Ascii

namespace FieldCheck.Date

/-- The three letters that tell the names apart, and what may follow them. -/
structure Name where
  short : List Char
  ending : List Char

def monthNames : List Name :=
  [("jan", "uary"), ("feb", "ruary"), ("mar", "ch"), ("apr", "il"), ("may", ""),
    ("jun", "e"), ("jul", "y"), ("aug", "ust"), ("sep", "tember"), ("oct", "ober"),
    ("nov", "ember"), ("dec", "ember")].map fun (short, ending) =>
      ⟨short.toList, ending.toList⟩

def weekdayNames : List Name :=
  [("mon", "day"), ("tue", "sday"), ("wed", "nesday"), ("thu", "rsday"), ("fri", "day"),
    ("sat", "urday"), ("sun", "day")].map fun (short, ending) =>
      ⟨short.toList, ending.toList⟩

/-- What is left of the text after a word, in any case. -/
def dropWord? (word text : List Char) : Option (List Char) :=
  if (text.take word.length).map Text.asciiLower = word then some (text.drop word.length)
  else none

/-- Reads the first of `names` that the text starts with, where `count` is the number of
the first one. With `long`, the ending is taken along if it is there. -/
def readName? (long : Bool) (count : Nat) : List Name → List Char → Option (Nat × List Char)
  | [], _ => none
  | name :: names, text =>
      match dropWord? name.short text with
      | some rest => some (count, if long then (dropWord? name.ending rest).getD rest else rest)
      | none => readName? long (count + 1) names text

/-- January is 1. -/
def readMonth? (long : Bool) (text : List Char) : Option (Nat × List Char) :=
  readName? long 1 monthNames text

/-- Monday is 0. -/
def readWeekday? (long : Bool) (text : List Char) : Option (Nat × List Char) :=
  readName? long 0 weekdayNames text

end FieldCheck.Date
