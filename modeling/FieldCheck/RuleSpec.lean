import FieldCheck.Text.Blank

namespace FieldCheck

/-! Rule specs: `name`, or `name[first, second]`.

Arguments are cut at commas, and blanks after a comma are dropped. A backslash makes
the next character literal. `display` writes a spec so that commas, backslashes and
closing brackets inside an argument are read back as part of it.
-/

structure RuleSpec where
  name : String
  arguments : List String
deriving DecidableEq

inductive SpecFault where
  | emptyName
  | strayBracket
  | missingBracket
  | emptyArguments
deriving DecidableEq

def SpecFault.message : SpecFault → String
  | .emptyName => "empty rule name"
  | .strayBracket => "unexpected `]`"
  | .missingBracket => "missing closing `]`"
  | .emptyArguments => "empty argument list"

namespace RuleSpec

/-- Adds a character to the argument that is being read, the first of the list. -/
def extend (c : Char) : List (List Char) → List (List Char)
  | [] => [[c]]
  | argument :: rest => (c :: argument) :: rest

/-- Cuts the text between the brackets. `afterComma` holds while blanks are dropped. -/
def splitBody (afterComma : Bool) : List Char → List (List Char)
  | [] => [[]]
  | '\\' :: c :: rest => extend c (splitBody false rest)
  | c :: rest =>
      if c = ',' then [] :: splitBody true rest
      else if afterComma && Text.isBlank c then splitBody true rest
      else extend c (splitBody false rest)

def splitArguments (body : String) : List String :=
  (splitBody false body.toList).map String.ofList

/-- Splits off a closing bracket at the very end. -/
def dropClosing? (text : List Char) : Option (List Char) :=
  match text.reverse with
  | ']' :: rest => some rest.reverse
  | _ => none

/-- Reads a spec from characters without blanks around them. -/
def ofTrimmed? (text : List Char) : Except SpecFault RuleSpec :=
  match text.dropWhile (· != '[') with
  | [] =>
      if text.isEmpty then .error .emptyName
      else if text.contains ']' then .error .strayBracket
      else .ok ⟨String.ofList text, []⟩
  | _ :: inside =>
      let name := Text.trimEnd (text.takeWhile (· != '['))
      if name.isEmpty then .error .emptyName
      else
        match dropClosing? inside with
        | none => .error .missingBracket
        | some body =>
            if body.isEmpty then .error .emptyArguments
            else .ok ⟨String.ofList name, (splitBody false body).map String.ofList⟩

def parse? (text : String) : Except SpecFault RuleSpec :=
  ofTrimmed? (Text.trim text.toList)

def escape (c : Char) : List Char :=
  if c = ',' ∨ c = '\\' ∨ c = ']' then ['\\', c] else [c]

def writeArguments (arguments : List String) : List Char :=
  Text.joinWith [','] (arguments.map fun argument => argument.toList.flatMap escape)

def write (spec : RuleSpec) : List Char :=
  if spec.arguments.isEmpty then spec.name.toList
  else spec.name.toList ++ '[' :: writeArguments spec.arguments ++ [']']

def display (spec : RuleSpec) : String :=
  String.ofList spec.write

end RuleSpec

end FieldCheck
