import FieldCheck.Json.Basic
import FieldCheck.Data.OrderedMap
import FieldCheck.Text.Hexadecimal

namespace FieldCheck.Json

/-! Reading JSON text.

Text is read in two steps. `Source` is a document as it is written: its syntax has been
checked, but a number may be out of range and a string may hold half of a surrogate
pair. `Source.value?` gives it a meaning, or none. A reader that skips a part of a
document skips it as source, so only what is used has to mean something.
-/

/-- A number as written. `whole` marks one without fraction and exponent. -/
structure NumberSource where
  negative : Bool
  parts : Binary64.Scientific
  whole : Bool

/-- A string is `none` when an escape leaves a surrogate without its partner. -/
inductive Source where
  | null
  | bool (value : Bool)
  | number (written : NumberSource)
  | string (text : Option String)
  | array (items : List Source)
  | object (members : List (Option String × Source))
deriving Inhabited

namespace Source

def isSpace (c : Char) : Bool :=
  c == ' ' || c == '\n' || c == '\t' || c == '\r'

def skipSpace (text : List Char) : List Char :=
  text.dropWhile isSpace

def literal? (word : List Char) (text : List Char) : Option (List Char) :=
  if word.isPrefixOf text then some (text.drop word.length) else none

/-- A leading zero stands alone, a point is followed by a digit, and so is the mark of
an exponent after its sign. -/
def number? (negative : Bool) (text : List Char) : Option (NumberSource × List Char) :=
  let digits := text.takeWhile Text.isDigit
  let afterDigits := text.dropWhile Text.isDigit
  if digits.isEmpty || (digits.head? == some '0' && digits.length != 1) then none
  else
    let fraction? : Option (Bool × List Char × List Char) := match afterDigits with
      | '.' :: rest =>
          let fraction := rest.takeWhile Text.isDigit
          if fraction.isEmpty then none
          else some (false, fraction, rest.dropWhile Text.isDigit)
      | _ => some (true, [], afterDigits)
    match fraction? with
    | none => none
    | some (whole, fraction, tail) =>
        match tail with
        | mark :: rest =>
            if mark == 'e' || mark == 'E' then
              let (negativePower, unsigned) := match rest with
                | '-' :: more => (true, more)
                | '+' :: more => (false, more)
                | _ => (false, rest)
              let power := unsigned.takeWhile Text.isDigit
              if power.isEmpty then none
              else
                let size : Int := Text.valueOfDigits power
                let exponent := if negativePower then -size else size
                some (⟨negative, ⟨digits, fraction, exponent⟩, false⟩,
                  unsigned.dropWhile Text.isDigit)
            else some (⟨negative, ⟨digits, fraction, 0⟩, whole⟩, tail)
        | [] => some (⟨negative, ⟨digits, fraction, 0⟩, whole⟩, tail)

def simpleEscape? (c : Char) : Option Char :=
  match c with
  | '"' => some '"'
  | '\\' => some '\\'
  | '/' => some '/'
  | 'b' => some '\x08'
  | 'f' => some '\x0c'
  | 'n' => some '\n'
  | 'r' => some '\r'
  | 't' => some '\t'
  | _ => none

/-- The units of a string up to its closing quotation mark, newest first, and what
follows. A unit is a code point, or half of a surrogate pair that an escape named. -/
def stringUnits? (units : List Nat) : List Char → Option (List Nat × List Char)
  | [] => none
  | '"' :: rest => some (units, rest)
  | '\\' :: 'u' :: a :: b :: c :: d :: rest =>
      match Text.valueOfHex? [a, b, c, d] with
      | some unit => stringUnits? (unit :: units) rest
      | none => none
  | '\\' :: mark :: rest =>
      match simpleEscape? mark with
      | some c => stringUnits? (c.toNat :: units) rest
      | none => none
  | c :: rest =>
      if c.toNat < 0x20 || c == '\\' then none else stringUnits? (c.toNat :: units) rest

def isHighSurrogate (unit : Nat) : Bool := 0xD800 ≤ unit && unit ≤ 0xDBFF

def isLowSurrogate (unit : Nat) : Bool := 0xDC00 ≤ unit && unit ≤ 0xDFFF

/-- Joins surrogate pairs, building up `built` from the end. `units` runs backwards,
so the low half of a pair comes first. -/
def joinUnits? (built : List Char) : List Nat → Option (List Char)
  | [] => some built
  | low :: high :: rest =>
      if isLowSurrogate low then
        if isHighSurrogate high then
          joinUnits?
            (Char.ofNat (0x10000 + (high - 0xD800) * 0x400 + (low - 0xDC00)) :: built) rest
        else none
      else if isHighSurrogate low then none
      else joinUnits? (Char.ofNat low :: built) (high :: rest)
  | [unit] =>
      if isLowSurrogate unit || isHighSurrogate unit then none
      else some (Char.ofNat unit :: built)

def string? (text : List Char) : Option (Option String × List Char) :=
  (stringUnits? [] text).map fun (units, rest) =>
    ((joinUnits? [] units).map String.ofList, rest)

mutual

/-- Reads one value at the head of the text. Of two calls, one inside the other, one
has taken a character, so twice the length of the text is fuel enough. -/
def value (fuel : Nat) (text : List Char) : Option (Source × List Char) :=
  match fuel with
  | 0 => none
  | fuel + 1 =>
      match skipSpace text with
      | 'n' :: rest => (literal? "ull".toList rest).map (Source.null, ·)
      | 't' :: rest => (literal? "rue".toList rest).map (Source.bool true, ·)
      | 'f' :: rest => (literal? "alse".toList rest).map (Source.bool false, ·)
      | '"' :: rest => (string? rest).map fun (text, rest) => (.string text, rest)
      | '[' :: rest =>
          match skipSpace rest with
          | ']' :: rest => some (.array [], rest)
          | _ => (items fuel [] rest).map fun (items, rest) => (.array items, rest)
      | '\x7b' :: rest =>
          match skipSpace rest with
          | '\x7d' :: rest => some (.object [], rest)
          | _ => (members fuel [] rest).map fun (members, rest) => (.object members, rest)
      | '-' :: rest => (number? true rest).map fun (written, rest) => (.number written, rest)
      | text => (number? false text).map fun (written, rest) => (.number written, rest)

/-- Reads items, each followed by a comma or the closing bracket, after `done` (newest
first). -/
def items (fuel : Nat) (done : List Source) (text : List Char) :
    Option (List Source × List Char) :=
  match fuel with
  | 0 => none
  | fuel + 1 =>
      match value fuel text with
      | none => none
      | some (item, rest) =>
          match skipSpace rest with
          | ',' :: rest => items fuel (item :: done) rest
          | ']' :: rest => some ((item :: done).reverse, rest)
          | _ => none

def members (fuel : Nat) (done : List (Option String × Source)) (text : List Char) :
    Option (List (Option String × Source) × List Char) :=
  match fuel with
  | 0 => none
  | fuel + 1 =>
      match skipSpace text with
      | '"' :: rest =>
          match string? rest with
          | none => none
          | some (name, rest) =>
              match skipSpace rest with
              | ':' :: rest =>
                  match value fuel rest with
                  | none => none
                  | some (item, rest) =>
                      match skipSpace rest with
                      | ',' :: rest => members fuel ((name, item) :: done) rest
                      | '\x7d' :: rest => some (((name, item) :: done).reverse, rest)
                      | _ => none
              | _ => none
      | _ => none

end

/-- Reads a whole document: one value, white space around it and nothing else. -/
def read? (text : String) : Option Source :=
  let characters := text.toList
  match value (2 * characters.length + 2) characters with
  | some (source, rest) => if (skipSpace rest).isEmpty then some source else none
  | none => none

end Source

namespace NumberSource

/-- A whole number in the range of 64 bits is an integer, except for the negative
zero. Any other number is rounded, and one that rounds to an infinity has no value. -/
def value? (written : NumberSource) : Option Json :=
  let size := Text.valueOfDigits written.parts.whole
  if written.whole && !written.negative && size < Nat.pow 2 64 then some (.integer size)
  else if written.whole && written.negative && 0 < size && size ≤ Nat.pow 2 63 then
    some (.integer (-(size : Int)))
  else
    let rounded := written.parts.toBinary64 written.negative
    if rounded.isFinite then some (.real rounded) else none

end NumberSource

namespace Source

mutual

/-- The value that a document stands for. -/
def value? : Source → Option Json
  | .null => some .null
  | .bool value => some (.bool value)
  | .number written => written.value?
  | .string text => text.map Json.string
  | .array items => (itemValues? items).map Json.array
  | .object members => (memberValues? members).map Json.object

def itemValues? : List Source → Option (List Json)
  | [] => some []
  | item :: rest =>
      match value? item, itemValues? rest with
      | some value, some values => some (value :: values)
      | _, _ => none

def memberValues? : List (Option String × Source) → Option (List (String × Json))
  | [] => some []
  | (name, item) :: rest =>
      match name, value? item, memberValues? rest with
      | some name, some value, some values => some ((name, value) :: values)
      | _, _, _ => none

end

end Source

/-- Reads a document to its value. Members that share a name are all kept. -/
def read? (text : String) : Option Json :=
  (Source.read? text).bind Source.value?

mutual

/-- Keeps one member to a name: the first position and the last value. -/
def unique : Json → Json
  | .array items => .array (uniqueItems items)
  | .object members => .object (OrderedMap.ofList (uniqueMembers members)).entries
  | json => json

def uniqueItems : List Json → List Json
  | [] => []
  | item :: rest => unique item :: uniqueItems rest

def uniqueMembers : List (String × Json) → List (String × Json)
  | [] => []
  | (name, value) :: rest => (name, unique value) :: uniqueMembers rest

end

end FieldCheck.Json
