namespace FieldCheck.Text

/-- A set of code points as ascending, disjoint, inclusive ranges. -/
abbrev CodeRanges := List (Nat × Nat)

namespace CodeRanges

/-- The scan ends at the first range that starts beyond `code`. -/
def contains : CodeRanges → Nat → Bool
  | [], _ => false
  | (first, last) :: rest, code =>
      if code < first then false else code ≤ last || contains rest code

/-- Each range is in order and the next one starts beyond it. -/
def ascending : CodeRanges → Bool
  | [] => true
  | [(first, last)] => decide (first ≤ last)
  | (first, last) :: (next, final) :: rest =>
      decide (first ≤ last) && decide (last < next) && ascending ((next, final) :: rest)

end CodeRanges

/-- Ascending, disjoint, inclusive ranges, each with what it says about its code
points. -/
abbrev CodeTable (α : Type) := List (Nat × Nat × α)

namespace CodeTable

/-- The scan ends at the first range that starts beyond `code`. -/
def get? : CodeTable α → Nat → Option α
  | [], _ => none
  | (first, last, value) :: rest, code =>
      if code < first then none else if code ≤ last then some value else get? rest code

end CodeTable

end FieldCheck.Text
