import FieldCheck.Rule

namespace FieldCheck

abbrev MessageTable := OrderedMap (String × String) String

structure MissingMessage where
  field : String
  code : String
deriving DecidableEq

namespace MissingMessage

def message (missing : MissingMessage) : String :=
  let field := missing.field
  let code := missing.code
  s!"no message for error `{code}` on field `{field}`"

end MissingMessage

namespace MessageTable

def entriesOfJson? (field : String) : Json → Option (List ((String × String) × String))
  | .object messages => messages.mapM fun (code, json) =>
      match json with
      | .string message => some ((field, code), message)
      | _ => none
  | _ => none

/-- Reads an object of objects of strings: fields, codes, messages. -/
def ofJson? : Json → Option MessageTable
  | .object fields => do
      let entries ← fields.mapM fun (field, json) => entriesOfJson? field json
      return OrderedMap.ofList entries.flatten
  | _ => none

end MessageTable

namespace ErrorMap

/-- The message of every error, in the order of the errors, or the first one that is
missing. -/
def renderEntries (table : MessageTable) :
    List (String × String) → Except MissingMessage (List (String × String))
  | [] => .ok []
  | (field, code) :: rest =>
      match table.get? (field, code) with
      | none => .error ⟨field, code⟩
      | some message =>
          match renderEntries table rest with
          | .ok messages => .ok ((field, message) :: messages)
          | .error missing => .error missing

def render (errors : ErrorMap) (table : MessageTable) :
    Except MissingMessage (List (String × String)) :=
  renderEntries table errors.entries

def toJson (errors : ErrorMap) : Json :=
  .object (errors.entries.map fun entry => (entry.1, .string entry.2))

def codeOfJson? : Json → Option String
  | .string code => some code
  | _ => none

def ofJson? : Json → Option ErrorMap
  | .object members => do
      let entries ← members.mapM fun (field, json) =>
        (codeOfJson? json).map fun code => (field, code)
      return OrderedMap.ofList entries
  | _ => none

end ErrorMap

end FieldCheck
