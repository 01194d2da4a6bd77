namespace FieldCheck.Date

def isLeapYear (year : Int) : Bool :=
  year % 4 == 0 && (year % 100 != 0 || year % 400 == 0)

/-- The length of a month, zero for a number that names no month. -/
def daysInMonth (year : Int) (month : Nat) : Nat :=
  match month with
  | 1 | 3 | 5 | 7 | 8 | 10 | 12 => 31
  | 4 | 6 | 9 | 11 => 30
  | 2 => if isLeapYear year then 29 else 28
  | _ => 0

def firstYear : Int := -262143

def lastYear : Int := 262142

/-- Whether the day is in the calendar, between the first and the last year. -/
def isDay (year : Int) (month day : Nat) : Bool :=
  firstYear ≤ year && year ≤ lastYear && 1 ≤ day && day ≤ daysInMonth year month

/-- Days are numbered in sequence. Years are counted from March, so that a leap day
comes last. -/
def dayNumber (year : Int) (month day : Nat) : Int :=
  let (shifted, sinceMarch) := if month ≤ 2 then (year - 1, month + 9) else (year, month - 3)
  365 * shifted + shifted / 4 - shifted / 100 + shifted / 400 +
    ((153 * sinceMarch + 2) / 5 : Nat) + day

/-- The day of the week, counted from Monday. -/
def weekday (year : Int) (month day : Nat) : Int :=
  (dayNumber year month day + 1) % 7

end FieldCheck.Date
