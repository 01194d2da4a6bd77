import FieldCheck.Messages
import FieldCheck.Pipeline.Run

namespace FieldCheck

structure Validator where
  pipeline : Pipeline
  record : Record
  errors : ErrorMap
  /-- Free-form messages by field. -/
  messages : OrderedMap String String
  submitted : Bool
  /-- Whether the pipeline has been run. -/
  ran : Bool

/-- The state of a validator as it is handed on. -/
structure Outcome where
  success : Bool
  errors : ErrorMap
  record : Record

namespace Outcome

def toJson (outcome : Outcome) : Json :=
  .object [("success", .bool outcome.success), ("errors", ErrorMap.toJson outcome.errors),
    ("record", Record.toJson outcome.record)]

def successOfJson? : Json → Option Bool
  | .bool success => some success
  | _ => none

def ofParts? (success errors record : Json) : Option Outcome :=
  match successOfJson? success, ErrorMap.ofJson? errors, Record.ofJson? record with
  | some success, some errors, some record => some ⟨success, errors, record⟩
  | _, _, _ => none

/-- The one member of a name. A name that occurs twice is refused, as one that is
missing. -/
def only? (name : String) (members : List (String × Option Json)) : Option Json :=
  match members.filter (·.1 == name) with
  | [(_, json?)] => json?
  | _ => none

/-- The three parts by name. Members of other names are passed over. -/
def ofMembers? (members : List (String × Option Json)) : Option Outcome :=
  match only? "success" members, only? "errors" members, only? "record" members with
  | some success, some errors, some record => ofParts? success errors record
  | _, _, _ => none

/-- Reads an object with the three parts, or an array of just these. -/
def ofJson? : Json → Option Outcome
  | .object members => ofMembers? (members.map fun member => (member.1, some member.2))
  | .array [success, errors, record] => ofParts? success errors record
  | _ => none

/-- As `ofJson?`, from a document. Members of other names need not have a value. -/
def ofSource? : Json.Source → Option Outcome
  | .object members =>
      if members.all (·.1.isSome) then
        ofMembers? (members.map fun member => (member.1.getD "", member.2.value?))
      else none
  | source => source.value?.bind ofJson?

def read? (text : String) : Option Outcome :=
  (Json.Source.read? text).bind ofSource?

end Outcome

namespace Validator

/-- A record with at least one field counts as submitted. -/
def withPipeline (record : Record) (pipeline : Pipeline) : Validator :=
  ⟨pipeline, record, .empty, .empty, !record.isEmpty, false⟩

def withRegistry (record : Record) (registry : Registry) (config : Config) : Validator :=
  withPipeline record (.new registry config)

def withConfig (record : Record) (config : Config) : Validator :=
  withRegistry record .builtin config

def new (record : Record) : Validator :=
  withConfig record .standard

/-- A fresh validator for another record, with the same pipeline. -/
def copy (validator : Validator) (record : Record) : Validator :=
  withPipeline record validator.pipeline

/-- The same pipeline, record and submitted flag. Errors and messages start anew. -/
def clone (validator : Validator) : Validator :=
  { validator with errors := .empty, messages := .empty, ran := false }

def configure (validator : Validator) (change : Pipeline → Pipeline) : Validator :=
  { validator with pipeline := change validator.pipeline }

def tryConfigure (validator : Validator)
    (change : Pipeline → Except RegistrationError Pipeline) :
    Except RegistrationError Validator :=
  (change validator.pipeline).map fun pipeline => { validator with pipeline }

def resolver (validator : Validator) (resolver : Resolver) : Validator :=
  validator.configure (·.setResolver resolver)

def allowEmptyRules (validator : Validator) (rules : List String) : Validator :=
  validator.configure fun pipeline => rules.foldl Pipeline.allowEmpty pipeline

def declare (validator : Validator) (field : String) (shape : Shape) : Validator :=
  validator.configure (·.declare field shape)

def preFilter (validator : Validator) (target : Target) (name : String) :
    Except RegistrationError Validator :=
  validator.tryConfigure (·.addFilterNamed .pre target name)

def postFilter (validator : Validator) (target : Target) (name : String) :
    Except RegistrationError Validator :=
  validator.tryConfigure (·.addFilterNamed .post target name)

def filterWith (validator : Validator) (stage : FilterStage) (target : Target)
    (name : String) (apply : Value → Value) : Validator :=
  validator.configure (·.addFilter stage target ⟨name, .caller, apply⟩)

def addSpec (target : Target) (pipeline : Pipeline) (text : String) :
    Except RegistrationError Pipeline :=
  match RuleSpec.parse text with
  | .error error => .error error
  | .ok spec => pipeline.addRule target spec

/-- Adds rules in order. After an error nothing is left of the validator. -/
def rules (validator : Validator) (target : Target) (specs : List String) :
    Except RegistrationError Validator :=
  validator.tryConfigure fun pipeline => specs.foldlM (addSpec target) pipeline

def rule (validator : Validator) (target : Target) (spec : String) :
    Except RegistrationError Validator :=
  validator.rules target [spec]

/-- Adds a rule of the caller's, without arguments. -/
def ruleWith (validator : Validator) (target : Target) (name : String)
    (check : Value → Context → Verdict) : Validator :=
  validator.configure
    (·.addBoundRule target ⟨name, [], .caller, fun value _ context => check value context⟩)

def callbacks (validator : Validator) (target : Target) (names : List String) :
    Except RegistrationError Validator :=
  validator.tryConfigure fun pipeline =>
    names.foldlM (fun pipeline name => pipeline.addCallbackNamed target name) pipeline

def callback (validator : Validator) (target : Target) (name : String) :
    Except RegistrationError Validator :=
  validator.callbacks target [name]

def callbackWith (validator : Validator) (target : Target) (name : String)
    (run : Record → ErrorMap → String → List (String × String)) : Validator :=
  validator.configure (·.addCallback target ⟨name, .caller, run⟩)

/-- Runs the pipeline on the record and the errors as they are. -/
def validate (validator : Validator) : Validator × Run :=
  let run := validator.pipeline.run validator.record validator.errors validator.submitted
  ({ validator with record := run.record, errors := run.errors, ran := true }, run)

def setSubmitted (validator : Validator) (submitted : Bool) : Validator :=
  { validator with submitted }

def addError (validator : Validator) (field code : String) : Validator :=
  { validator with errors := validator.errors.insert field code }

def setMessage (validator : Validator) (field message : String) : Validator :=
  { validator with messages := validator.messages.insert field message }

def message? (validator : Validator) (field : String) : Option String :=
  validator.messages.get? field

/-- All free-form messages, one to a line. -/
def joinedMessages (validator : Validator) : String :=
  "\n".intercalate validator.messages.values

def fieldNames (validator : Validator) : List String :=
  validator.pipeline.fieldNames

/-- The configured fields among `choices`, or all of them if there are no choices. A
missing field is null. -/
def safeRecord (validator : Validator) (choices : List String) : Record :=
  let configured := validator.fieldNames
  let wanted := if choices.isEmpty then configured else choices
  .ofList ((wanted.filter configured.contains).map fun field =>
    (field, validator.record.value field))

/-- Success is read off the state as it is now. -/
def outcome (validator : Validator) : Outcome :=
  ⟨validator.ran && validator.submitted && validator.errors.isEmpty, validator.errors,
    validator.record⟩

end Validator

end FieldCheck
