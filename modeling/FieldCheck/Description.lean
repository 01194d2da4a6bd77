import FieldCheck.Pipeline.Basic
import FieldCheck.Text.Quoted

namespace FieldCheck

namespace Description

def list (items : List String) : String :=
  "[" ++ ", ".intercalate items ++ "]"

def names (names : List String) : String :=
  list (names.map Text.quoted)

def optional (value : Option String) : String :=
  match value with
  | some text => s!"Some({text})"
  | none => "None"

/-- A type name with its fields. `more` says that not all of them are shown. -/
def record (name : String) (fields : List (String × String)) (more : Bool) : String :=
  let shown := fields.map fun (field, value) => s!"{field}: {value}"
  name ++ " \x7b " ++ ", ".intercalate (if more then shown ++ [".."] else shown) ++ " \x7d"

end Description

def Shape.describe : Shape → String
  | .scalar => "Scalar"
  | .sequence => "Sequence"

def Contract.describe (contract : Contract) : String :=
  Description.record "ArgSpec" [("min", toString contract.least),
    ("max", Description.optional (contract.most.map toString)),
    ("kind", contract.kind.name)] false

def Rule.describe (rule : Rule) : String :=
  Description.record "RuleDef" [("name", Text.quoted rule.name),
    ("args", rule.contract.describe),
    ("shape", Description.optional (rule.shape.map Shape.describe))] true

def Registry.describe (registry : Registry) : String :=
  Description.record "Registry" [("rules", Description.names registry.ruleNames),
    ("filters", Description.names (Registry.sorted registry.filters.keys)),
    ("callbacks", Description.names (Registry.sorted registry.callbacks.keys))] false

def Config.describe (config : Config) : String :=
  Description.record "ValidatorConfig"
    [("decimal_separator", Text.quotedChar config.decimalSeparator),
      ("empty_rules", Description.names config.emptyRules),
      ("phone_lengths", Description.list (config.phoneLengths.map toString))] false

/-- Every entry with its target. -/
def Groups.describe (groups : Groups α) (name : α → String) : String :=
  Description.names (groups.entries.flatMap fun (target, entries) =>
    entries.map fun entry => target.display ++ ":" ++ name entry)

def Pipeline.describeShapes (pipeline : Pipeline) : String :=
  "\x7b" ++ ", ".intercalate (pipeline.shapes.entries.map fun (field, shape) =>
    Text.quoted field ++ ": " ++ shape.describe) ++ "\x7d"

def Pipeline.describe (pipeline : Pipeline) : String :=
  Description.record "Pipeline" [("config", pipeline.config.describe),
    ("pre_filters", pipeline.preFilters.describe Filter.name),
    ("rules", pipeline.rules.describe BoundRule.name),
    ("callbacks", pipeline.callbacks.describe Callback.name),
    ("post_filters", pipeline.postFilters.describe Filter.name),
    ("shapes", pipeline.describeShapes),
    ("resolver", Description.optional (pipeline.resolver.map fun _ =>
      Text.quoted "<resolver>"))] true

end FieldCheck
