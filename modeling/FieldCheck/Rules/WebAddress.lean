import FieldCheck.Web.Address

namespace FieldCheck.Rules

def webAddress (text : List Char) : Bool :=
  (Web.host? text).isSome

end FieldCheck.Rules
