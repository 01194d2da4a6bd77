import FieldCheck.Rule

namespace FieldCheck.Rules

def required (value : Value) : Bool :=
  !value.isBlank

/-- The value is equal to that of every named field. A missing field counts as null. -/
def matchesFields (value : Value) (record : Record) (fields : List String) : Bool :=
  fields.all fun field => (record.value field).same value

/-- Every named field is there and not blank. -/
def dependsOn (record : Record) (fields : List String) : Bool :=
  fields.all fun field =>
    match record.get? field with
    | some value => !value.isBlank
    | none => false

def isArray (value : Value) : Bool :=
  value.isList

end FieldCheck.Rules
