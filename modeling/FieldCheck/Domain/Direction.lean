import FieldCheck.Domain.Direction.Classes

namespace FieldCheck.Domain

def directionOf (c : Char) : Direction :=
  (Text.CodeTable.get? directions c.toNat).getD .leftToRight

def Direction.isRightToLeft : Direction → Bool
  | .rightToLeft | .arabicNumber => true
  | _ => false

/-- What a label may hold that starts from left to right. -/
def Direction.fitsLeftToRight : Direction → Bool
  | .leftToRight | .europeanNumber | .neutral | .mark => true
  | .rightToLeft | .arabicNumber => false

/-- What such a label may end in, marks aside. -/
def Direction.endsLeftToRight : Direction → Bool
  | .leftToRight | .europeanNumber => true
  | _ => false

def Direction.fitsRightToLeft (direction : Direction) : Bool :=
  direction != .leftToRight

def Direction.endsRightToLeft : Direction → Bool
  | .rightToLeft | .europeanNumber | .arabicNumber => true
  | _ => false

/-- The directions of a label without the marks at its end. -/
def trimMarks (directions : List Direction) : List Direction :=
  (directions.reverse.dropWhile (· == .mark)).reverse

/-- Numbers of both kinds do not go together from right to left. -/
def mixesNumbers (directions : List Direction) : Bool :=
  directions.contains .europeanNumber && directions.contains .arabicNumber

def directionsAgree (label : List Char) : Bool :=
  let directions := trimMarks (label.map directionOf)
  match label.map directionOf with
  | [] => true
  | .leftToRight :: _ =>
      directions.all Direction.fitsLeftToRight &&
        directions.getLast?.any Direction.endsLeftToRight
  | .rightToLeft :: _ =>
      directions.all Direction.fitsRightToLeft &&
        directions.getLast?.any Direction.endsRightToLeft && !mixesNumbers directions
  | _ => false

def isBidirectional (labels : List (List Char)) : Bool :=
  labels.any (·.any fun c => (directionOf c).isRightToLeft)

def orderIsApparent (labels : List (List Char)) : Bool :=
  !isBidirectional labels || labels.all directionsAgree

end FieldCheck.Domain
