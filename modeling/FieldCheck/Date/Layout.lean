import FieldCheck.Date.Calendar
import FieldCheck.Date.Names
import FieldCheck.Text.Blank
import FieldCheck.Text.Numeral

namespace FieldCheck.Date

inductive Item where
  | year
  | month
  | day
  | hour
  /-- An hour from 1 to 12, with `half` beside it. -/
  | halfDayHour
  | minute
  | second
  /-- AM or PM. -/
  | half
  | monthName (long : Bool)
  | weekdayName
  | mark (c : Char)
  /-- Blanks, or nothing. -/
  | gap

abbrev Layout := List Item

/-- What the items of a layout have said so far. -/
structure Reading where
  year : Option Int
  month : Option Nat
  day : Option Nat
  weekday : Option Nat
  hour : Option Nat
  halfDayHour : Option Nat
  half : Option Bool
  minute : Option Nat
  second : Option Nat

namespace Reading

def blank : Reading := ⟨none, none, none, none, none, none, none, none, none⟩

/-- The day that was read is in the calendar and falls on the day of the week that was
read, if one was. -/
def hasDate (reading : Reading) : Bool :=
  match reading.year, reading.month, reading.day with
  | some year, some month, some day =>
      isDay year month day &&
        match reading.weekday with
        | some named => Date.weekday year month day == named
        | none => true
  | _, _, _ => false

/-- Hour and minute are known. Seconds may be left out. -/
def hasTime (reading : Reading) : Bool :=
  reading.minute.isSome &&
    (reading.hour.isSome || (reading.halfDayHour.isSome && reading.half.isSome))

end Reading

def readNumber? (width : Nat) (text : List Char) : Option (Nat × List Char) :=
  let digits := (text.take width).takeWhile Text.isDigit
  if digits.isEmpty then none
  else some (Text.valueOfDigits digits, text.drop digits.length)

def readDigits? (text : List Char) : Option (Nat × List Char) :=
  let digits := text.takeWhile Text.isDigit
  if digits.isEmpty then none
  else some (Text.valueOfDigits digits, text.dropWhile Text.isDigit)

/-- A year has up to four digits, or any number of them after a sign. -/
def readYear? (text : List Char) : Option (Int × List Char) :=
  match text with
  | '-' :: rest => (readDigits? rest).map fun (year, rest) => (-(year : Int), rest)
  | '+' :: rest => (readDigits? rest).map fun (year, rest) => ((year : Int), rest)
  | _ => (readNumber? 4 text).map fun (year, rest) => ((year : Int), rest)

/-- A number of at most two digits in a range. -/
def readBetween? (least most : Nat) (text : List Char) : Option (Nat × List Char) :=
  match readNumber? 2 (Text.trimStart text) with
  | some (value, rest) => if least ≤ value ∧ value ≤ most then some (value, rest) else none
  | none => none

def readHalf? (text : List Char) : Option (Bool × List Char) :=
  match dropWord? ['a', 'm'] text, dropWord? ['p', 'm'] text with
  | some rest, _ => some (false, rest)
  | none, some rest => some (true, rest)
  | none, none => none

def readItem? (item : Item) (reading : Reading) (text : List Char) :
    Option (Reading × List Char) :=
  match item with
  | .year => (readYear? (Text.trimStart text)).map fun (year, rest) =>
      ({ reading with year := some year }, rest)
  | .month => (readBetween? 1 12 text).map fun (month, rest) =>
      ({ reading with month := some month }, rest)
  | .day => (readBetween? 1 31 text).map fun (day, rest) =>
      ({ reading with day := some day }, rest)
  | .hour => (readBetween? 0 23 text).map fun (hour, rest) =>
      ({ reading with hour := some hour }, rest)
  | .halfDayHour => (readBetween? 1 12 text).map fun (hour, rest) =>
      ({ reading with halfDayHour := some hour }, rest)
  | .minute => (readBetween? 0 59 text).map fun (minute, rest) =>
      ({ reading with minute := some minute }, rest)
  | .second => (readBetween? 0 60 text).map fun (second, rest) =>
      ({ reading with second := some second }, rest)
  | .half => (readHalf? text).map fun (half, rest) =>
      ({ reading with half := some half }, rest)
  | .monthName long => (readMonth? long text).map fun (month, rest) =>
      ({ reading with month := some month }, rest)
  | .weekdayName => (readWeekday? true text).map fun (weekday, rest) =>
      ({ reading with weekday := some weekday }, rest)
  | .mark c =>
      match text with
      | first :: rest => if first = c then some (reading, rest) else none
      | [] => none
  | .gap => some (reading, Text.trimStart text)

namespace Layout

def readFrom? (reading : Reading) : Layout → List Char → Option (Reading × List Char)
  | [], text => some (reading, text)
  | item :: items, text =>
      match readItem? item reading text with
      | some (reading, rest) => readFrom? reading items rest
      | none => none

/-- Reads a text to its very end. -/
def read? (layout : Layout) (text : List Char) : Option Reading :=
  match readFrom? .blank layout text with
  | some (reading, []) => some reading
  | _ => none

def fits (layout : Layout) (judge : Reading → Bool) (text : List Char) : Bool :=
  match layout.read? text with
  | some reading => judge reading
  | none => false

end Layout

def yearFirst (separator : Char) : Layout :=
  [.year, .mark separator, .month, .mark separator, .day]

def monthFirst (separator : Char) : Layout :=
  [.month, .mark separator, .day, .mark separator, .year]

def dayFirst (separator : Char) : Layout :=
  [.day, .mark separator, .month, .mark separator, .year]

def clock : Layout := [.hour, .mark ':', .minute]

def fullClock : Layout := clock ++ [.mark ':', .second]

def momentLayouts : List Layout :=
  [yearFirst '-' ++ .gap :: fullClock, yearFirst '-' ++ .gap :: clock,
    yearFirst '-' ++ .mark 'T' :: fullClock, yearFirst '-' ++ .mark 'T' :: clock,
    yearFirst '/' ++ .gap :: fullClock, yearFirst '/' ++ .gap :: clock,
    monthFirst '/' ++ .gap :: fullClock, monthFirst '/' ++ .gap :: clock,
    dayFirst '.' ++ .gap :: clock]

/-- A month by name, a day and a year, with a comma before the year or without. -/
def namedMonthFirst (long comma : Bool) : Layout :=
  [.monthName long, .gap, .day] ++ (if comma then [.mark ','] else []) ++ [.gap, .year]

def namedDayFirst (long : Bool) : Layout :=
  [.day, .gap, .monthName long, .gap, .year]

def dayLayouts : List Layout :=
  [yearFirst '-', yearFirst '/', monthFirst '/', dayFirst '-', dayFirst '.',
    [.year, .month, .day], namedMonthFirst true true, namedMonthFirst true false,
    namedDayFirst true, namedMonthFirst false true, namedMonthFirst false false,
    namedDayFirst false, [.weekdayName, .mark ',', .gap] ++ namedMonthFirst true true]

def timeLayouts : List Layout :=
  [fullClock, clock, [.halfDayHour, .mark ':', .minute, .gap, .half],
    [.halfDayHour, .mark ':', .minute, .half],
    [.halfDayHour, .mark ':', .minute, .mark ':', .second, .gap, .half]]

end FieldCheck.Date
