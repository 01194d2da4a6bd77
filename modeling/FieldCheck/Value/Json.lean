import FieldCheck.Value.Basic
import FieldCheck.Json.Basic

namespace FieldCheck.Value

mutual

def toJson : Value → FieldCheck.Json
  | .null => .null
  | .bool flag => .bool flag
  | .number x => if x.isFinite then .real x else .null
  | .text content => .string content
  | .list items => .array (itemsToJson items)

def itemsToJson : List Value → List FieldCheck.Json
  | [] => []
  | item :: rest => toJson item :: itemsToJson rest

end

/-- The items of a list, unless one of them is itself a list. -/
def scalarItems? (items : List Value) : Option (List Value) :=
  if items.any isList then none else some items

mutual

/-- Integers are taken as the number nearest to them, and objects are refused. -/
def ofJson? : FieldCheck.Json → Option Value
  | .null => some .null
  | .bool flag => some (.bool flag)
  | .integer value => some (.number (Binary64.ofInt value))
  | .real x => some (.number x)
  | .string content => some (.text content)
  | .array items => ((itemsOfJson? items).bind scalarItems?).map .list
  | .object _ => none

/-- Items are read as any other value is. -/
def itemsOfJson? : List FieldCheck.Json → Option (List Value)
  | [] => some []
  | item :: rest =>
      match ofJson? item, itemsOfJson? rest with
      | some first, some others => some (first :: others)
      | _, _ => none

end

end FieldCheck.Value
