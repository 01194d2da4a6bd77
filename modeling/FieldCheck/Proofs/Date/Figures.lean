import FieldCheck.Proofs.Date.Consumption
import FieldCheck.Proofs.Text.Whitespace

namespace FieldCheck.Date

open Text (IsField isDigit isBlank valueOfDigits writePadded)

/-- Every fourth year, and of the first years of the centuries every fourth one. -/
def IsLeap (year : Nat) : Prop := 4 ∣ year ∧ (100 ∣ year → 400 ∣ year)

inductive HasDays (year : Nat) : Nat → Nat → Prop
  | long {month : Nat} : month ∈ [1, 3, 5, 7, 8, 10, 12] → HasDays year month 31
  | short {month : Nat} : month ∈ [4, 6, 9, 11] → HasDays year month 30
  | leap : IsLeap year → HasDays year 2 29
  | common : ¬IsLeap year → HasDays year 2 28

/-- There is such a month, and such a day in it. -/
def InCalendar (year month day : Nat) : Prop :=
  ∃ length, HasDays year month length ∧ 1 ≤ day ∧ day ≤ length

variable {year month day : Nat}

theorem isLeapYear_iff : isLeapYear year = true ↔ IsLeap year := by
  simp only [isLeapYear, IsLeap, Bool.and_eq_true, Bool.or_eq_true, beq_iff_eq, bne_iff_ne]
  omega

/-- The lengths of the months, with none for the other numbers. -/
theorem hasDays_iff {length : Nat} :
    HasDays year month length ↔ length = daysInMonth year month ∧ length ≠ 0 := by
  constructor
  · intro days
    cases days with
    | long member =>
        simp only [List.mem_cons, List.not_mem_nil, or_false] at member
        rcases member with rfl | rfl | rfl | rfl | rfl | rfl | rfl <;> exact ⟨rfl, by decide⟩
    | short member =>
        simp only [List.mem_cons, List.not_mem_nil, or_false] at member
        rcases member with rfl | rfl | rfl | rfl <;> exact ⟨rfl, by decide⟩
    | leap isLeap => exact ⟨(if_pos (isLeapYear_iff.mpr isLeap)).symm, by decide⟩
    | common notLeap => exact ⟨(if_neg (mt isLeapYear_iff.mp notLeap)).symm, by decide⟩
  · rintro ⟨rfl, given⟩
    unfold daysInMonth at given ⊢
    split at given
    any_goals exact .long (by decide)
    any_goals exact .short (by decide)
    · split
      · exact .leap (isLeapYear_iff.mp ‹_›)
      · exact .common (mt isLeapYear_iff.mpr ‹_›)
    · exact absurd rfl given

theorem isDay_iff (within : year ≤ 9999) :
    isDay year month day = true ↔ InCalendar year month day := by
  -- Four digits never leave the years that the calendar is made for.
  have inYears : firstYear ≤ (year : Int) ∧ (year : Int) ≤ lastYear := by
    unfold firstYear lastYear
    omega
  simp only [isDay, InCalendar, hasDays_iff, inYears, Bool.and_eq_true, decide_eq_true_eq, true_and]
  constructor
  · rintro ⟨least, most⟩
    exact ⟨_, ⟨rfl, by omega⟩, least, most⟩
  · rintro ⟨length, ⟨rfl, -⟩, least, most⟩
    exact ⟨least, most⟩

theorem InCalendar.bounds (inCalendar : InCalendar year month day) :
    (1 ≤ month ∧ month ≤ 12) ∧ 1 ≤ day ∧ day ≤ 31 := by
  obtain ⟨length, days, least, most⟩ := inCalendar
  cases days with
  | long member | short member =>
      simp only [List.mem_cons, List.not_mem_nil, or_false] at member
      omega
  | leap | common => omega

variable {digits rest : List Char} {width : Nat} {c : Char} {reading : Reading}

theorem readNumber?_digits (each : ∀ c ∈ digits, isDigit c = true) (given : digits ≠ [])
    (fits : digits.length ≤ width)
    (ends : digits.length = width ∨ ∀ c ∈ rest.head?, isDigit c = false) :
    readNumber? width (digits ++ rest) = some (valueOfDigits digits, rest) := by
  have behind : (rest.take (width - digits.length)).takeWhile isDigit = [] := by
    rcases ends with full | ends
    · rw [full, Nat.sub_self, List.take_zero, List.takeWhile_nil]
    · cases rest with
      | nil => rw [List.take_nil, List.takeWhile_nil]
      | cons c more =>
          cases width - digits.length with
          | zero => rfl
          | succ count => exact List.takeWhile_cons_of_neg (by simp [ends c rfl])
  have taken : ((digits ++ rest).take width).takeWhile isDigit = digits := by
    rw [List.take_append, List.take_of_length_le fits, List.takeWhile_append_of_pos each, behind,
      List.append_nil]
  rw [readNumber?, taken, if_neg (by simpa using given), List.drop_left]

theorem trimStart_digits (each : ∀ c ∈ digits, isDigit c = true) (given : digits ≠ [])
    (rest : List Char) : Text.trimStart (digits ++ rest) = digits ++ rest := by
  obtain ⟨c, others, rfl⟩ := List.exists_cons_of_ne_nil given
  exact Text.trimStart_cons_of_not_blank (Text.not_isBlank_of_isDigit (each c List.mem_cons_self)) _

theorem readYear?_digits (each : ∀ c ∈ digits, isDigit c = true) (given : digits ≠ [])
    (fits : digits.length ≤ 4)
    (ends : digits.length = 4 ∨ ∀ c ∈ rest.head?, isDigit c = false) :
    readYear? (digits ++ rest) = some ((valueOfDigits digits : Int), rest) := by
  have number := readNumber?_digits each given fits ends
  obtain ⟨c, others, rfl⟩ := List.exists_cons_of_ne_nil given
  have digit : isDigit c = true := each c List.mem_cons_self
  unfold readYear?
  -- A sign in front would be the first digit.
  split
  · rename_i same
    cases same
    exact absurd digit (by decide)
  · rename_i same
    cases same
    exact absurd digit (by decide)
  · rw [number, Option.map_some]

theorem readItem?_year (each : ∀ c ∈ digits, isDigit c = true) (given : digits ≠ [])
    (fits : digits.length ≤ 4)
    (ends : digits.length = 4 ∨ ∀ c ∈ rest.head?, isDigit c = false) (reading : Reading) :
    readItem? .year reading (digits ++ rest) =
      some ({ reading with year := some (valueOfDigits digits) }, rest) := by
  rw [readItem?, trimStart_digits each given, readYear?_digits each given fits ends,
    Option.map_some]

theorem readBetween?_field (field : IsField 2 digits) (least most : Nat) (rest : List Char) :
    readBetween? least most (digits ++ rest) =
      if least ≤ valueOfDigits digits ∧ valueOfDigits digits ≤ most
      then some (valueOfDigits digits, rest) else none := by
  have given := field.ne_nil (by decide)
  rw [readBetween?, trimStart_digits field.each given,
    readNumber?_digits field.each given (Nat.le_of_eq field.length) (.inl field.length)]

theorem readItem?_mark (c : Char) (reading : Reading) (rest : List Char) :
    readItem? (.mark c) reading (c :: rest) = some (reading, rest) := if_pos rfl

/-- A number, or what stands between the numbers of a date. -/
def Item.isNumeric : Item → Bool
  | .year | .month | .day => true
  | .mark c => marks.contains c
  | _ => false

/-- A part of a date in its full width. -/
def Item.write (year month day : Nat) : Item → List Char
  | .year => writePadded 4 year
  | .month => writePadded 2 month
  | .day => writePadded 2 day
  | .mark c => [c]
  | _ => []

def Layout.write (year month day : Nat) (layout : Layout) : List Char :=
  layout.flatMap (Item.write year month day)

/-- There is such a month, or there may be such a day. -/
def Item.allows (month day : Nat) : Item → Bool
  | .month => 1 ≤ month ∧ month ≤ 12
  | .day => 1 ≤ day ∧ day ≤ 31
  | _ => true

def Item.note (year month day : Nat) (reading : Reading) : Item → Reading
  | .year => { reading with year := some year }
  | .month => { reading with month := some month }
  | .day => { reading with day := some day }
  | _ => reading

variable {item : Item} {layout : Layout}

/-- Numbers that four digits, two, and two have room for. -/
structure Fit (year month day : Nat) : Prop where
  year : year ≤ 9999
  month : month ≤ 99
  day : day ≤ 99

theorem Fit.isField_year (fit : Fit year month day) : IsField 4 (writePadded 4 year) :=
  Text.isField_writePadded (by decide) (Nat.lt_succ_of_le fit.year)

theorem Fit.isField_month (fit : Fit year month day) : IsField 2 (writePadded 2 month) :=
  Text.isField_writePadded (by decide) (Nat.lt_succ_of_le fit.month)

theorem Fit.isField_day (fit : Fit year month day) : IsField 2 (writePadded 2 day) :=
  Text.isField_writePadded (by decide) (Nat.lt_succ_of_le fit.day)

theorem readItem?_write (fit : Fit year month day) (numeric : item.isNumeric = true)
    (rest : List Char) :
    readItem? item reading (item.write year month day ++ rest) =
      if item.allows month day then some (item.note year month day reading, rest) else none := by
  cases item with
  | year =>
      have field := fit.isField_year
      refine (readItem?_year field.each (field.ne_nil (by decide)) (Nat.le_of_eq field.length)
        (.inl field.length) reading).trans ?_
      rw [Text.valueOfDigits_writePadded]
      rfl
  | month =>
      rw [readItem?, Item.write, readBetween?_field fit.isField_month,
        Text.valueOfDigits_writePadded]
      by_cases possible : 1 ≤ month ∧ month ≤ 12 <;> simp [possible, Item.allows, Item.note]
  | day =>
      rw [readItem?, Item.write, readBetween?_field fit.isField_day,
        Text.valueOfDigits_writePadded]
      by_cases possible : 1 ≤ day ∧ day ≤ 31 <;> simp [possible, Item.allows, Item.note]
  | mark c => exact readItem?_mark c reading rest
  | hour | halfDayHour | minute | second | half | monthName | weekdayName | gap => cases numeric

theorem isFigure_of_mem_write (fit : Fit year month day) (numeric : layout.all Item.isNumeric = true)
    (member : c ∈ layout.write year month day) : IsFigure c := by
  obtain ⟨item, inLayout, written⟩ := List.mem_flatMap.mp member
  have isNumeric := List.all_eq_true.mp numeric item inLayout
  cases item with
  | year => exact .inl (fit.isField_year.each c written)
  | month => exact .inl (fit.isField_month.each c written)
  | day => exact .inl (fit.isField_day.each c written)
  | mark d =>
      obtain rfl := List.mem_singleton.mp written
      exact .inr (List.contains_iff_mem.mp isNumeric)
  | _ => cases written

theorem readFrom?_write (fit : Fit year month day) (numeric : layout.all Item.isNumeric = true) :
    layout.readFrom? reading (layout.write year month day) =
      if layout.all (Item.allows month day)
      then some (layout.foldl (Item.note year month day) reading, []) else none := by
  induction layout generalizing reading with
  | nil => rfl
  | cons item items itemsIH =>
      obtain ⟨first, others⟩ := (Bool.and_eq_true _ _).mp (List.all_cons.symm.trans numeric)
      rw [Layout.readFrom?, Layout.write, List.flatMap_cons, readItem?_write fit first,
        ← Layout.write]
      cases allows : item.allows month day with
      | true =>
          simp only [if_true, itemsIH others, List.all_cons, allows, Bool.true_and, List.foldl_cons]
      | false => simp [allows]

theorem fits_write (fit : Fit year month day) (numeric : layout.all Item.isNumeric = true)
    (noted : layout.foldl (Item.note year month day) .blank =
      { Reading.blank with year := some year, month := some month, day := some day }) :
    layout.fits Reading.hasDate (layout.write year month day) = true ↔
      InCalendar year month day := by
  rw [← isDay_iff fit.year, Layout.fits, Layout.read?, readFrom?_write fit numeric]
  by_cases allows : layout.all (Item.allows month day) = true
  · rw [if_pos allows, noted]
    simp [Reading.hasDate, Reading.blank]
  · have impossible : ¬InCalendar year month day := by
      intro inCalendar
      refine allows (List.all_eq_true.mpr fun item member => ?_)
      cases item with
      | month => exact decide_eq_true inCalendar.bounds.1
      | day => exact decide_eq_true inCalendar.bounds.2
      | _ => rfl
    rw [if_neg allows, isDay_iff fit.year]
    simpa using impossible

end FieldCheck.Date
