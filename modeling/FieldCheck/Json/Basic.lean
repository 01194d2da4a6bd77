import FieldCheck.Binary64.Text

namespace FieldCheck

/-- A number without fraction or exponent that fits in 64 bits is an `integer`, and every
other number is `real`. Members keep their order. -/
inductive Json where
  | null
  | bool (value : Bool)
  | integer (value : Int)
  | real (value : Binary64)
  | string (text : String)
  | array (items : List Json)
  | object (members : List (String × Json))
deriving Inhabited

namespace Json

def hexDigit (value : Nat) : Char :=
  if value < 10 then Char.ofNat (48 + value) else Char.ofNat (87 + value)

/-- Control characters below U+0020, the quotation mark and the backslash are
escaped, and nothing else is. -/
def escape (c : Char) : List Char :=
  match c with
  | '"' => ['\\', '"']
  | '\\' => ['\\', '\\']
  | '\x08' => ['\\', 'b']
  | '\t' => ['\\', 't']
  | '\n' => ['\\', 'n']
  | '\x0c' => ['\\', 'f']
  | '\r' => ['\\', 'r']
  | _ =>
      if c.toNat < 0x20 then
        ['\\', 'u', '0', '0', hexDigit (c.toNat / 16), hexDigit (c.toNat % 16)]
      else [c]

def quote (text : String) : List Char :=
  '"' :: text.toList.flatMap escape ++ ['"']

/-- An infinity and `nan` have no text of their own and are written as `null`. -/
def writeReal (value : Binary64) : List Char :=
  if value.isFinite then value.write Binary64.json else "null".toList

mutual

def write : Json → List Char
  | .null => "null".toList
  | .bool true => "true".toList
  | .bool false => "false".toList
  | .integer value => Text.writeInt value
  | .real value => writeReal value
  | .string text => quote text
  | .array items => '[' :: writeItems true items ++ [']']
  | .object members => '\x7b' :: writeMembers true members ++ ['\x7d']

/-- A comma stands in front of every item but the first. -/
def writeItems (first : Bool) : List Json → List Char
  | [] => []
  | item :: rest => (if first then [] else [',']) ++ write item ++ writeItems false rest

def writeMembers (first : Bool) : List (String × Json) → List Char
  | [] => []
  | (name, value) :: rest =>
      (if first then [] else [',']) ++ quote name ++ ':' :: write value ++
        writeMembers false rest

end

def text (json : Json) : String := String.ofList json.write

/-- The members of an object by name, or nothing. -/
def member? (json : Json) (name : String) : Option Json :=
  match json with
  | .object members => members.lookup name
  | _ => none

end Json

end FieldCheck
