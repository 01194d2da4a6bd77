import FieldCheck.Data.OrderedMap
import FieldCheck.Value.Json

namespace FieldCheck

abbrev Record := OrderedMap String Value

namespace Record

/-- The value of a field, null when it is missing. -/
def value (record : Record) (field : String) : Value :=
  (record.get? field).getD .null

/-- Equality of the fields and their values in any order. -/
def same (left right : Record) : Bool :=
  left.sameBy Value.same right

def toJson (record : Record) : Json :=
  .object (record.entries.map fun entry => (entry.1, entry.2.toJson))

/-- Reads an object member by member. A repeated name keeps its first position and
takes its last value. -/
def ofJson? : Json → Option Record
  | .object members =>
      (members.mapM fun member =>
        (Value.ofJson? member.2).map fun value => (member.1, value)).map OrderedMap.ofList
  | _ => none

end Record

end FieldCheck
