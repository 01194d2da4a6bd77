import FieldCheck.Date.Layout

namespace FieldCheck.Date

/-! The two timestamps of internet protocols, each a moment with its distance from
universal time.

The numeric one (RFC 3339) looks like `2024-03-01T14:30:00Z`. The one of mail headers
(RFC 2822) looks like `Fri, 1 Mar 2024 14:30:00 +0000`; its older forms with short
years, zone names and comments are read too.
-/

/-- `offset` counts the seconds that local time is ahead of universal time. -/
structure Timestamp where
  weekday : Option Nat
  year : Int
  month : Nat
  day : Nat
  hour : Nat
  minute : Nat
  second : Nat
  offset : Int

namespace Timestamp

/-- The moment is on the clock and in the calendar, in local and in universal time,
less than a day apart. A leap second counts as the one before it. -/
def isPossible (stamp : Timestamp) : Bool :=
  let secondOfDay : Int := stamp.hour * 3600 + stamp.minute * 60 + min stamp.second 59
  let universalDay :=
    dayNumber stamp.year stamp.month stamp.day + (secondOfDay - stamp.offset) / 86400
  isDay stamp.year stamp.month stamp.day &&
    (match stamp.weekday with
      | some named => Date.weekday stamp.year stamp.month stamp.day == named
      | none => true) &&
    stamp.hour ≤ 23 && stamp.minute ≤ 59 && stamp.second ≤ 60 &&
    stamp.offset.natAbs < 86400 &&
    dayNumber firstYear 1 1 ≤ universalDay && universalDay ≤ dayNumber lastYear 12 31

def twoDigits? : List Char → Option (Nat × List Char)
  | a :: b :: rest =>
      if Text.isDigit a && Text.isDigit b then some (Text.valueOfDigits [a, b], rest) else none
  | _ => none

def fourDigits? (text : List Char) : Option (Nat × List Char) := do
  let (century, text) ← twoDigits? text
  let (year, text) ← twoDigits? text
  return (century * 100 + year, text)

def mark? (c : Char) : List Char → Option (List Char)
  | first :: rest => if first = c then some rest else none
  | [] => none

/-- A sign, two digits of hours and two of minutes, with a colon between if `colon`. The
minus sign proper (U+2212) is a sign where `minusSign` allows it. -/
def offset? (colon minusSign : Bool) (text : List Char) : Option (Int × List Char) := do
  let (ahead, text) ← match text with
    | '+' :: rest => some (true, rest)
    | '-' :: rest => some (false, rest)
    | '\u2212' :: rest => if minusSign then some (false, rest) else none
    | _ => none
  let (hours, text) ← twoDigits? text
  let text ← if colon then mark? ':' text else some text
  let (minutes, text) ← twoDigits? text
  if 59 < minutes then none
  else
    let seconds : Int := hours * 3600 + minutes * 60
    return (if ahead then seconds else -seconds, text)

/-- A fraction of a second, of any length. -/
def dropFraction? : List Char → Option (List Char)
  | '.' :: rest => (readDigits? rest).map Prod.snd
  | text => some text

def numericOffset? : List Char → Option (Int × List Char)
  | 'Z' :: rest | 'z' :: rest => some (0, rest)
  | text => offset? true true text

def numeric? (text : List Char) : Option (Timestamp × List Char) := do
  let (year, text) ← fourDigits? text
  let text ← mark? '-' text
  let (month, text) ← twoDigits? text
  let text ← mark? '-' text
  let (day, text) ← twoDigits? text
  let text ← match text with
    | 'T' :: rest | 't' :: rest | ' ' :: rest => some rest
    | _ => none
  let (hour, text) ← twoDigits? text
  let text ← mark? ':' text
  let (minute, text) ← twoDigits? text
  let text ← mark? ':' text
  let (second, text) ← twoDigits? text
  let text ← dropFraction? text
  let (offset, text) ← numericOffset? text
  return (⟨none, year, month, day, hour, minute, second, offset⟩, text)

def blanks? : List Char → Option (List Char)
  | c :: rest => if Text.isBlank c then some (Text.trimStart rest) else none
  | [] => none

/-- A year of two digits lies from 1950 to 2049, one of three counts from 1900. -/
def mailYear? (text : List Char) : Option (Int × List Char) :=
  let digits := text.takeWhile Text.isDigit
  let rest := text.dropWhile Text.isDigit
  let value := Text.valueOfDigits digits
  match digits.length with
  | 0 | 1 => none
  | 2 => some (if value ≤ 49 then value + 2000 else value + 1900, rest)
  | 3 => some (value + 1900, rest)
  | _ => some (value, rest)

/-- Zone names with their hours. Other single letters but `j` count as universal time. -/
def zoneHours? (name : List Char) : Option Int :=
  match String.ofList (name.map Text.asciiLower) with
  | "gmt" | "ut" | "z" => some 0
  | "edt" => some (-4)
  | "est" | "cdt" => some (-5)
  | "cst" | "mdt" => some (-6)
  | "mst" | "pdt" => some (-7)
  | "pst" => some (-8)
  | "j" => none
  | _ => if name.length = 1 then some 0 else none

def mailOffset? (text : List Char) : Option (Int × List Char) :=
  let name := text.takeWhile Text.isAsciiLetter
  if name.isEmpty then offset? false false text
  else (zoneHours? name).map fun hours => (hours * 3600, text.dropWhile Text.isAsciiLetter)

def mailSecond? (text : List Char) : Option (Nat × List Char) :=
  match mark? ':' (Text.trimStart text) with
  | some rest => twoDigits? rest
  | none => some (0, text)

/-- A day of the week, which a comma follows, may come first. -/
def mailWeekday? (text : List Char) : Option (Option Nat × List Char) :=
  match readWeekday? false text with
  | some (weekday, rest) => (mark? ',' rest).map fun rest => (some weekday, rest)
  | none => some (none, text)

def mail? (text : List Char) : Option (Timestamp × List Char) := do
  let (weekday, text) ← mailWeekday? (Text.trimStart text)
  let (day, text) ← readNumber? 2 (Text.trimStart text)
  let text ← blanks? text
  let (month, text) ← readMonth? false text
  let text ← blanks? text
  let (year, text) ← mailYear? text
  let text ← blanks? text
  let (hour, text) ← twoDigits? text
  let text ← mark? ':' (Text.trimStart text)
  let (minute, text) ← twoDigits? (Text.trimStart text)
  let (second, text) ← mailSecond? text
  let text ← blanks? text
  let (offset, text) ← mailOffset? text
  return (⟨weekday, year, month, day, hour, minute, second, offset⟩, text)

/-- Comments in parentheses, which may be nested, with blanks between. `depth` counts
the open ones. A backslash inside a comment hides the next character. -/
def onlyComments : Nat → List Char → Bool
  | 0, [] => true
  | 0, '(' :: rest => onlyComments 1 rest
  | 0, c :: rest => Text.isBlank c && onlyComments 0 rest
  | _ + 1, [] => false
  | depth + 1, '\\' :: _ :: rest => onlyComments (depth + 1) rest
  | depth + 1, '(' :: rest => onlyComments (depth + 2) rest
  | depth + 1, ')' :: rest => onlyComments depth rest
  | depth + 1, _ :: rest => onlyComments (depth + 1) rest

end Timestamp

def isNumericTimestamp (text : List Char) : Bool :=
  match Timestamp.numeric? text with
  | some (stamp, rest) => rest.isEmpty && stamp.isPossible
  | none => false

def isMailTimestamp (text : List Char) : Bool :=
  match Timestamp.mail? text with
  | some (stamp, rest) => Timestamp.onlyComments 0 rest && stamp.isPossible
  | none => false

end FieldCheck.Date
