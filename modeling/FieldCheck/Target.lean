import FieldCheck.Value.Basic

namespace FieldCheck

inductive Target where
  | every
  | field (name : String)
deriving DecidableEq

namespace Target

/-- The star stands for every field, and no field can be named so. -/
def ofText (text : String) : Target :=
  if text = "*" then .every else .field text

def name? : Target → Option String
  | .every => none
  | .field name => some name

def display : Target → String
  | .every => "*"
  | .field name => name

/-- The fields meant, among the fields of a record in their order. -/
def fields (target : Target) (present : List String) : List String :=
  match target with
  | .every => present
  | .field name => [name]

/-- Whether `field` is among the fields meant. -/
def covers (target : Target) (field : String) : Bool :=
  match target with
  | .every => true
  | .field name => name == field

end Target

/-- The kind of value that a field is filled in with when it is missing. -/
inductive Shape where
  | scalar
  | sequence
deriving DecidableEq

namespace Shape

def placeholder : Shape → Value
  | .scalar => .null
  | .sequence => .list []

end Shape

end FieldCheck
