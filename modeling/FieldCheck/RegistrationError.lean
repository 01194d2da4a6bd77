import FieldCheck.Contract
import FieldCheck.RuleSpec

namespace FieldCheck

inductive RegistrationError where
  | unknownRule (name : String)
  | unknownFilter (name : String)
  | unknownCallback (name : String)
  | malformedSpec (spec : String) (fault : SpecFault)
  | invalidArguments (rule : String) (fault : ArgumentFault)
deriving DecidableEq

namespace RegistrationError

/-- A stable name for programs to tell the errors apart. -/
def code : RegistrationError → String
  | .unknownRule _ => "REG_UNKNOWN_RULE"
  | .unknownFilter _ => "REG_UNKNOWN_FILTER"
  | .unknownCallback _ => "REG_UNKNOWN_CALLBACK"
  | .malformedSpec .. => "REG_MALFORMED_SPEC"
  | .invalidArguments .. => "REG_INVALID_ARGS"

/-- Whether a name was not found, a spec could not be read, or arguments did not fit. -/
def category : RegistrationError → String
  | .unknownRule _ | .unknownFilter _ | .unknownCallback _ => "lookup"
  | .malformedSpec .. => "format"
  | .invalidArguments .. => "arguments"

def message : RegistrationError → String
  | .unknownRule name => s!"unknown rule `{name}`"
  | .unknownFilter name => s!"unknown filter `{name}`"
  | .unknownCallback name => s!"unknown callback `{name}`"
  | .malformedSpec spec fault =>
      let reason := fault.message
      s!"malformed rule spec `{spec}`: {reason}"
  | .invalidArguments rule fault =>
      let reason := fault.message
      s!"invalid arguments for rule `{rule}`: {reason}"

/-- Registering the same thing once more fails in the same way. -/
def retryable (_ : RegistrationError) : Bool := false

end RegistrationError

/-- Reads a spec for registration. The error carries the text without blanks around it. -/
def RuleSpec.parse (text : String) : Except RegistrationError RuleSpec :=
  match RuleSpec.parse? text with
  | .ok spec => .ok spec
  | .error fault => .error (.malformedSpec (Text.trimText text) fault)

end FieldCheck
