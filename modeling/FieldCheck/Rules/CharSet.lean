namespace FieldCheck.Rules

/-- Inclusive ranges, the ends of each in order. -/
structure CharSet where
  ranges : List (Char × Char)
deriving DecidableEq

namespace CharSet

def ordered (first last : Char) : Char × Char :=
  if first ≤ last then (first, last) else (last, first)

/-- Reads from the left. A dash with a character on either side makes a range of the
two, whichever comes first; any other character stands for itself. -/
def rangesOf : List Char → List (Char × Char)
  | first :: '-' :: last :: rest => ordered first last :: rangesOf rest
  | c :: rest => (c, c) :: rangesOf rest
  | [] => []

/-- The pieces are read as one text. -/
def ofArguments (arguments : List String) : CharSet :=
  ⟨rangesOf (arguments.flatMap String.toList)⟩

def contains (set : CharSet) (c : Char) : Bool :=
  set.ranges.any fun range => range.1 ≤ c && c ≤ range.2

end CharSet

def chars (text : List Char) (allowed : CharSet) : Bool :=
  text.all allowed.contains

end FieldCheck.Rules
