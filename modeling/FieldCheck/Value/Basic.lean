import FieldCheck.Binary64.Text

namespace FieldCheck

inductive Value where
  | null
  | bool (flag : Bool)
  | number (x : Binary64)
  | text (content : String)
  | list (items : List Value)
deriving Inhabited

namespace Value

/-- Nothing to check: null, false, the empty text and the empty list. Zero and white
space are something. -/
def isBlank : Value → Bool
  | .null => true
  | .bool flag => !flag
  | .number _ => false
  | .text content => content.isEmpty
  | .list items => items.isEmpty

def isList : Value → Bool
  | .list _ => true
  | _ => false

def text? : Value → Option String
  | .text content => some content
  | _ => none

def items? : Value → Option (List Value)
  | .list items => some items
  | _ => none

/-- A number as the rules see it: its plain text, with an unsigned zero. -/
def numberText (x : Binary64) : String :=
  String.ofList (if x.isZero then ['0'] else x.write Binary64.plain)

/-- The text that rules judge. A list has none. -/
def toText : Value → String
  | .null | .bool false | .list _ => ""
  | .bool true => "1"
  | .number x => numberText x
  | .text content => content

mutual

/-- The text shown to people: lists in brackets, all else as `toText`. -/
def display : Value → List Char
  | .list items => '[' :: displayItems true items ++ [']']
  | .null => []
  | .bool flag => if flag then ['1'] else []
  | .number x => (numberText x).toList
  | .text content => content.toList

def displayItems (first : Bool) : List Value → List Char
  | [] => []
  | item :: rest =>
      (if first then [] else [',', ' ']) ++ display item ++ displayItems false rest

end

mutual

/-- Equality by kind and content, where numbers compare as numbers. -/
def same : Value → Value → Bool
  | .null, .null => true
  | .bool left, .bool right => left == right
  | .number left, .number right => left.same right
  | .text left, .text right => left == right
  | .list left, .list right => sameItems left right
  | _, _ => false

def sameItems : List Value → List Value → Bool
  | [], [] => true
  | left :: lefts, right :: rights => same left right && sameItems lefts rights
  | _, _ => false

end

instance : BEq Value := ⟨same⟩

/-- Applies `f` to a scalar, or to each item of a list. An item that is itself a list
is handed over whole. -/
def mapScalars (f : Value → Value) : Value → Value
  | .list items => .list (items.map f)
  | scalar => f scalar

/-- The values that `mapScalars` hands over, in order. -/
def scalars : Value → List Value
  | .list items => items
  | scalar => [scalar]

/-- No list inside a list. -/
def Flat : Value → Prop
  | .list items => ∀ item ∈ items, item.isList = false
  | _ => True

end Value

end FieldCheck
