import FieldCheck.Proofs.Date.Figures

namespace FieldCheck.Date

/-! The layouts of numbers.

What is written in full in one of these layouts is read by no other of them. Where both have the
same mark, the other one comes upon a digit that should be a mark, or leaves digits behind. A
layout with other marks misses them, and the one without marks comes upon one.
-/

open Text (IsField isDigit isBlank writePadded)

variable {text digits rest first second third : List Char} {item : Item} {layout other : Layout}
  {c : Char} {year month day width widthSecond widthThird : Nat}

def unmarked : Layout := [.year, .month, .day]

def numericLayouts : List Layout :=
  [yearFirst '-', yearFirst '/', monthFirst '/', dayFirst '-', dayFirst '.', unmarked]

/-- One of the numeric layouts reads a day of the calendar from the text. -/
def ReadsNumeric (text : List Char) : Prop :=
  ∃ layout ∈ numericLayouts, layout.fits Reading.hasDate text = true

def divided (c : Char) (first second third : List Char) : List Char :=
  first ++ c :: (second ++ c :: third)

theorem clock_of_mem_momentLayouts : ∀ layout ∈ momentLayouts, .mark ':' ∈ layout := by
  simp [momentLayouts, fullClock, clock]

theorem clock_of_mem_timeLayouts : ∀ layout ∈ timeLayouts, .mark ':' ∈ layout := by
  simp [timeLayouts, fullClock, clock]

theorem name_of_mem_dayLayouts (member : layout ∈ dayLayouts) :
    layout ∈ numericLayouts ∨ ∃ long, .monthName long ∈ layout := by
  have split : dayLayouts = numericLayouts ++
      [namedMonthFirst true true, namedMonthFirst true false, namedDayFirst true,
        namedMonthFirst false true, namedMonthFirst false false, namedDayFirst false,
        [.weekdayName, .mark ',', .gap] ++ namedMonthFirst true true] := rfl
  rw [split, List.mem_append] at member
  refine member.imp_right fun named => ?_
  simp only [List.mem_cons, List.not_mem_nil, or_false] at named
  rcases named with rfl | rfl | rfl | rfl | rfl | rfl | rfl <;>
    simp [namedMonthFirst, namedDayFirst]

theorem unmarked_or_marked (numeric : layout ∈ numericLayouts) : layout = unmarked ∨
    ∃ c ∈ marks, .mark c ∈ layout ∧ layout ∈ [yearFirst c, monthFirst c, dayFirst c] := by
  simp only [numericLayouts, List.mem_cons, List.not_mem_nil, or_false] at numeric
  rcases numeric with rfl | rfl | rfl | rfl | rfl | rfl
  · exact .inr ⟨'-', by decide, by simp [yearFirst], by simp⟩
  · exact .inr ⟨'/', by decide, by simp [yearFirst], by simp⟩
  · exact .inr ⟨'/', by decide, by simp [monthFirst], by simp⟩
  · exact .inr ⟨'-', by decide, by simp [dayFirst], by simp⟩
  · exact .inr ⟨'.', by decide, by simp [dayFirst], by simp⟩
  · exact .inl rfl

theorem dayLayouts_any_iff (figures : ∀ c ∈ text, IsFigure c) :
    dayLayouts.any (·.fits Reading.hasDate text) = true ↔ ReadsNumeric text := by
  rw [List.any_eq_true]
  constructor
  · rintro ⟨layout, member, fits⟩
    rcases name_of_mem_dayLayouts member with numeric | ⟨long, named⟩
    · exact ⟨layout, numeric, fits⟩
    · rw [fits_of_foreign named (foreign_monthName long) figures] at fits
      cases fits
  · rintro ⟨layout, numeric, fits⟩
    exact ⟨layout, List.mem_append_left _ numeric, fits⟩

/-- A number of four digits where one of two belongs. -/
theorem fits_of_long_field (short : item ∈ [.month, .day]) (notDigit : isDigit c = false)
    (field : IsField 4 digits) (judge : Reading → Bool) (rest : List Char) :
    Layout.fits (item :: .mark c :: layout) judge (digits ++ rest) = false := by
  obtain ⟨front, back, rfl, inFront, inBack⟩ := field.split 2 2
  obtain ⟨digit, others, rfl⟩ := List.exists_cons_of_ne_nil (inBack.ne_nil (by decide))
  -- The third digit stands where the mark should.
  have other : digit ≠ c := by
    rintro rfl
    exact absurd (inBack.each digit List.mem_cons_self) (by simp [notDigit])
  have unmarked (reading : Reading) :
      Layout.readFrom? reading (.mark c :: layout) (digit :: others ++ rest) = none := by
    rw [List.cons_append, Layout.readFrom?, readItem?, if_neg other]
  have unread : Layout.readFrom? .blank (item :: .mark c :: layout)
      (front ++ (digit :: others ++ rest)) = none := by
    rw [Layout.readFrom?]
    split
    · rename_i read
      rcases List.mem_pair.mp short with rfl | rfl
      all_goals
        obtain ⟨⟨value, left⟩, found, same⟩ := Option.map_eq_some_iff.mp read
        rw [readBetween?_field inFront] at found
        obtain ⟨-, taken⟩ := Option.ite_none_right_eq_some.mp found
        cases taken
        cases same
        exact unmarked _
    · rfl
  rw [List.append_assoc, Layout.fits, Layout.read?, unread]

/-- A year where the day belongs. -/
theorem yearFirst_fits_of_year_last (notDigit : isDigit c = false) (inFirst : IsField 2 first)
    (inSecond : IsField 2 second) (inThird : IsField 4 third) (judge : Reading → Bool) :
    (yearFirst c).fits judge (divided c first second third) = false := by
  obtain ⟨front, back, rfl, inFront, inBack⟩ := inThird.split 2 2
  obtain ⟨digit, others, rfl⟩ := List.exists_cons_of_ne_nil (inBack.ne_nil (by decide))
  have ends : ∀ d ∈ (c :: (second ++ c :: (front ++ digit :: others))).head?, isDigit d = false := by
    simpa using notDigit
  have year := readItem?_year inFirst.each (inFirst.ne_nil (by decide))
    (by rw [inFirst.length]; decide) (.inr ends) .blank
  rw [divided, Layout.fits, Layout.read?, yearFirst, Layout.readFrom?, year]
  simp only [Layout.readFrom?, readItem?_mark]
  rw [readItem?, readBetween?_field inSecond]
  split_ifs with month
  -- The day takes two digits of the year, and the other two are left.
  · simp only [Option.map_some, readItem?_mark]
    rw [readItem?, readBetween?_field inFront]
    split_ifs <;> rfl
  · rfl

/-- A mark where the month belongs. -/
theorem unmarked_fits_of_mark (notDigit : isDigit c = false) (notBlank : isBlank c = false)
    (each : ∀ c ∈ digits, isDigit c = true) (given : digits ≠ []) (fits : digits.length ≤ 4)
    (judge : Reading → Bool) (rest : List Char) :
    unmarked.fits judge (digits ++ c :: rest) = false := by
  have ends : ∀ d ∈ (c :: rest).head?, isDigit d = false := by simpa using notDigit
  have year := readItem?_year each given fits (.inr ends) .blank
  have noMonth : readNumber? 2 (Text.trimStart (c :: rest)) = none := by
    rw [Text.trimStart_cons_of_not_blank notBlank, readNumber?, List.take_succ_cons,
      List.takeWhile_cons_of_neg (by simp [notDigit])]
    rfl
  rw [unmarked, Layout.fits, Layout.read?, Layout.readFrom?, year]
  simp only [Layout.readFrom?, readItem?, readBetween?, noMonth, Option.map_none]

/-- A layout reads such a text only with the same mark between its numbers. -/
theorem layout_of_divided (mark : c ∈ marks) (given : width ≠ 0) (fits : width ≤ 4)
    (inFirst : IsField width first) (inSecond : IsField widthSecond second)
    (inThird : IsField widthThird third) (numeric : layout ∈ numericLayouts)
    (reads : layout.fits Reading.hasDate (divided c first second third) = true) :
    layout ∈ [yearFirst c, monthFirst c, dayFirst c] := by
  have notDigit : isDigit c = false := not_isDigit_of_mem_marks mark
  have notBlank : isBlank c = false := IsFigure.not_isBlank (.inr mark)
  rcases unmarked_or_marked numeric with rfl | ⟨d, markOther, inLayout, among⟩
  · rw [divided, unmarked_fits_of_mark notDigit notBlank inFirst.each (inFirst.ne_nil given)
      (inFirst.length.trans_le fits)] at reads
    cases reads
  · by_cases same : d = c
    · exact same ▸ among
    · have noDigit := not_isDigit_of_mem_marks markOther
      have absent : d ∉ divided c first second third := by
        simp [divided, same, Text.not_mem_of_digits inFirst.each noDigit,
          Text.not_mem_of_digits inSecond.each noDigit, Text.not_mem_of_digits inThird.each noDigit]
      rw [fits_of_mark inLayout absent] at reads
      cases reads

theorem eq_yearFirst_of_fits (fit : Fit year month day) (mark : c ∈ marks)
    (numeric : other ∈ numericLayouts)
    (reads : other.fits Reading.hasDate ((yearFirst c).write year month day) = true) :
    other = yearFirst c := by
  have written : (yearFirst c).write year month day =
      divided c (writePadded 4 year) (writePadded 2 month) (writePadded 2 day) := by
    simp [Layout.write, yearFirst, divided, Item.write]
  rw [written] at reads
  have among := layout_of_divided mark (by decide) (by decide) fit.isField_year fit.isField_month
    fit.isField_day numeric reads
  have notDigit := not_isDigit_of_mem_marks mark
  simp only [List.mem_cons, List.not_mem_nil, or_false] at among
  rcases among with same | rfl | rfl
  · exact same
  · rw [divided, monthFirst, fits_of_long_field (by simp) notDigit fit.isField_year] at reads
    cases reads
  · rw [divided, dayFirst, fits_of_long_field (by simp) notDigit fit.isField_year] at reads
    cases reads

theorem yearLast_of_fits (c : Char) (fit : Fit year month day) (mark : c ∈ marks)
    (yearLast : layout ∈ [monthFirst c, dayFirst c]) (numeric : other ∈ numericLayouts)
    (reads : other.fits Reading.hasDate (layout.write year month day) = true) :
    other ∈ [monthFirst c, dayFirst c] := by
  have written : ∃ first second, IsField 2 first ∧ IsField 2 second ∧
      layout.write year month day = divided c first second (writePadded 4 year) := by
    rcases List.mem_pair.mp yearLast with rfl | rfl
    · exact ⟨_, _, fit.isField_month, fit.isField_day, by
        simp [Layout.write, monthFirst, divided, Item.write]⟩
    · exact ⟨_, _, fit.isField_day, fit.isField_month, by
        simp [Layout.write, dayFirst, divided, Item.write]⟩
  obtain ⟨first, second, inFirst, inSecond, written⟩ := written
  rw [written] at reads
  have among := layout_of_divided mark (by decide) (by decide) inFirst inSecond fit.isField_year
    numeric reads
  rcases List.mem_cons.mp among with rfl | among
  · rw [yearFirst_fits_of_year_last (not_isDigit_of_mem_marks mark) inFirst inSecond
      fit.isField_year] at reads
    cases reads
  · exact among

theorem eq_unmarked_of_fits (fit : Fit year month day) (numeric : other ∈ numericLayouts)
    (reads : other.fits Reading.hasDate (unmarked.write year month day) = true) :
    other = unmarked := by
  rcases unmarked_or_marked numeric with same | ⟨c, mark, inOther, -⟩
  · exact same
  · have notDigit := not_isDigit_of_mem_marks mark
    have absent : c ∉ unmarked.write year month day := by
      simp [Layout.write, unmarked, Item.write,
        Text.not_mem_of_digits fit.isField_year.each notDigit,
        Text.not_mem_of_digits fit.isField_month.each notDigit,
        Text.not_mem_of_digits fit.isField_day.each notDigit]
    rw [fits_of_mark inOther absent] at reads
    cases reads

/-- No two of the layouts read the same text in full width. -/
theorem eq_of_fits_write (fit : Fit year month day) (own : layout ∈ numericLayouts)
    (numeric : other ∈ numericLayouts)
    (reads : other.fits Reading.hasDate (layout.write year month day) = true) : other = layout := by
  -- Of the two orders with the year last, one mark has one.
  have absent : dayFirst '/' ∉ numericLayouts ∧ monthFirst '-' ∉ numericLayouts ∧
      monthFirst '.' ∉ numericLayouts := by
    simp [numericLayouts, yearFirst, monthFirst, dayFirst, unmarked]
  simp only [numericLayouts, List.mem_cons, List.not_mem_nil, or_false] at own
  rcases own with rfl | rfl | rfl | rfl | rfl | rfl
  · exact eq_yearFirst_of_fits fit (by decide) numeric reads
  · exact eq_yearFirst_of_fits fit (by decide) numeric reads
  · have yearLast := yearLast_of_fits '/' fit (by decide) (by simp) numeric reads
    exact (List.mem_pair.mp yearLast).resolve_right fun same => absent.1 (same ▸ numeric)
  · have yearLast := yearLast_of_fits '-' fit (by decide) (by simp) numeric reads
    exact (List.mem_pair.mp yearLast).resolve_left fun same => absent.2.1 (same ▸ numeric)
  · have yearLast := yearLast_of_fits '.' fit (by decide) (by simp) numeric reads
    exact (List.mem_pair.mp yearLast).resolve_left fun same => absent.2.2 (same ▸ numeric)
  · exact eq_unmarked_of_fits fit numeric reads

theorem isNumeric_of_mem_numericLayouts :
    ∀ layout ∈ numericLayouts, layout.all Item.isNumeric = true := by decide

theorem write_ne_nil (fit : Fit year month day) (own : layout ∈ numericLayouts) :
    layout.write year month day ≠ [] := by
  have withYear : ∀ layout ∈ numericLayouts, .year ∈ layout := by
    simp [numericLayouts, yearFirst, monthFirst, dayFirst, unmarked]
  intro nothing
  have none := List.flatMap_eq_nil_iff.mp nothing .year (withYear layout own)
  exact fit.isField_year.ne_nil (by decide) none

theorem readsNumeric_write_iff (fit : Fit year month day) (own : layout ∈ numericLayouts) :
    ReadsNumeric (layout.write year month day) ↔ InCalendar year month day := by
  have noted : layout.foldl (Item.note year month day) .blank =
      { Reading.blank with year := some year, month := some month, day := some day } := by
    simp only [numericLayouts, List.mem_cons, List.not_mem_nil, or_false] at own
    rcases own with rfl | rfl | rfl | rfl | rfl | rfl <;> rfl
  rw [← fits_write fit (isNumeric_of_mem_numericLayouts layout own) noted]
  constructor
  · rintro ⟨other, isNumeric, reads⟩
    exact eq_of_fits_write fit own isNumeric reads ▸ reads
  · exact fun reads => ⟨layout, own, reads⟩

end FieldCheck.Date
