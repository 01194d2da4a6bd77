import FieldCheck.Config
import FieldCheck.Contract
import FieldCheck.Record
import FieldCheck.Target

namespace FieldCheck

/-- Codes of failed fields, in the order in which the fields first failed. -/
abbrev ErrorMap := OrderedMap String String

/-- Tells whether a mail domain is known. -/
abbrev Resolver := String → Bool

/-- What a rule may look at beside the value that it judges. -/
structure Context where
  record : Record
  config : Config
  resolver : Option Resolver

/-- The answer of a rule, and the domains that it asked its resolver about, in order. -/
structure Verdict where
  passed : Bool
  asked : List String
deriving DecidableEq

namespace Verdict

def of (passed : Bool) : Verdict := ⟨passed, []⟩

end Verdict

/-- Judges a value under the arguments of a rule. -/
abbrev Check := Value → List String → Context → Verdict

/-- Whether a function comes with the library or from its caller. -/
inductive Origin where
  | library
  | caller
deriving DecidableEq

structure Rule where
  name : String
  contract : Contract
  /-- The shape of every field that the rule is registered on. -/
  shape : Option Shape
  origin : Origin
  check : Check

/-- Filters see scalars. Lists are filtered item by item. -/
structure Filter where
  name : String
  origin : Origin
  apply : Value → Value

/-- A callback is called for a field, sees the record and the errors so far, and
answers with the errors to add, each a field and its code. -/
structure Callback where
  name : String
  origin : Origin
  run : Record → ErrorMap → String → List (String × String)

end FieldCheck
