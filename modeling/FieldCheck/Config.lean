import FieldCheck.Json.Source

namespace FieldCheck

structure Config where
  /-- The character between the whole part and the fraction of a numeral. -/
  decimalSeparator : Char
  /-- Rules that run on blank values too, beside the two that always do. -/
  emptyRules : List String
  /-- The digit counts of a telephone number when a rule gives none. -/
  phoneLengths : List Nat
deriving DecidableEq

namespace Config

def standard : Config := ⟨'.', [], [7, 10, 11]⟩

instance : Inhabited Config := ⟨standard⟩

/-- The rules that run on blank values under every configuration. -/
def alwaysExempt : List String := ["required", "matches"]

def isEmptyExempt (config : Config) (rule : String) : Bool :=
  alwaysExempt.contains rule || config.emptyRules.contains rule

def withDecimalSeparator (config : Config) (separator : Char) : Config :=
  { config with decimalSeparator := separator }

/-- Names may come to stand in the list more than once. -/
def withEmptyRule (config : Config) (rule : String) : Config :=
  { config with emptyRules := config.emptyRules ++ [rule] }

def allowEmpty (config : Config) (rule : String) : Config :=
  if config.emptyRules.contains rule then config else config.withEmptyRule rule

def withPhoneLengths (config : Config) (lengths : List Nat) : Config :=
  { config with phoneLengths := lengths }

def toJson (config : Config) : Json :=
  .object [("decimal_separator", .string (String.singleton config.decimalSeparator)),
    ("empty_rules", .array (config.emptyRules.map .string)),
    ("phone_lengths", .array (config.phoneLengths.map fun length => .integer (.ofNat length)))]

def separatorOfJson? : Json → Option Char
  | .string text =>
      match text.toList with
      | [c] => some c
      | _ => none
  | _ => none

def namesOfJson? : Json → Option (List String)
  | .array items => items.mapM fun
      | .string name => some name
      | _ => none
  | _ => none

/-- Lengths are written as integers, not as numbers with a fraction of zero. -/
def lengthsOfJson? : Json → Option (List Nat)
  | .array items => items.mapM fun
      | .integer (.ofNat length) => some length
      | _ => none
  | _ => none

/-- The settings in the order in which an array gives them. -/
inductive Setting where
  | decimalSeparator
  | emptyRules
  | phoneLengths
deriving DecidableEq

namespace Setting

def all : List Setting := [.decimalSeparator, .emptyRules, .phoneLengths]

def ofName? (name : String) : Option Setting :=
  match name with
  | "decimal_separator" => some .decimalSeparator
  | "empty_rules" => some .emptyRules
  | "phone_lengths" => some .phoneLengths
  | _ => none

def assign? (setting : Setting) (json : Json) (config : Config) : Option Config :=
  match setting with
  | .decimalSeparator => (separatorOfJson? json).map config.withDecimalSeparator
  | .emptyRules => (namesOfJson? json).map fun names => { config with emptyRules := names }
  | .phoneLengths => (lengthsOfJson? json).map config.withPhoneLengths

end Setting

/-- Settings by name. An unknown name is passed over with all that it holds, even what
has no value; a known one may come once. -/
def ofMembers? (seen : List Setting) (config : Config) :
    List (Option String × Option Json) → Option Config
  | [] => some config
  | (none, _) :: _ => none
  | (some name, json?) :: rest =>
      match Setting.ofName? name with
      | none => ofMembers? seen config rest
      | some setting =>
          if seen.contains setting then none
          else
            match json?.bind (setting.assign? · config) with
            | some config => ofMembers? (setting :: seen) config rest
            | none => none

/-- Settings by position. The ones at the end may be left out. -/
def ofItems? (config : Config) : List Setting → List (Option Json) → Option Config
  | _, [] => some config
  | [], _ :: _ => none
  | setting :: settings, json? :: rest =>
      match json?.bind (setting.assign? · config) with
      | some config => ofItems? config settings rest
      | none => none

/-- Reads an object or an array of settings. A setting that is not given keeps its
standard value. -/
def ofSource? : Json.Source → Option Config
  | .object members =>
      ofMembers? [] standard (members.map fun member => (member.1, member.2.value?))
  | .array items => ofItems? standard Setting.all (items.map (·.value?))
  | _ => none

def ofJson? : Json → Option Config
  | .object members =>
      ofMembers? [] standard (members.map fun member => (some member.1, some member.2))
  | .array items => ofItems? standard Setting.all (items.map some)
  | _ => none

def read? (text : String) : Option Config :=
  (Json.Source.read? text).bind ofSource?

end Config

end FieldCheck
