import FieldCheck.Proofs.Date.NumericLayouts
import FieldCheck.Rules.Date

namespace FieldCheck.Rules

open Date
open Text (writePadded)

variable {text written padded : List Char} {year month day : Nat}

theorem letter_of_mem_dateKeywords :
    ∀ keyword ∈ dateKeywords, keyword.toList.any (¬IsFigure ·) = true := by
  decide +kernel

theorem isDateKeyword_of_figures (figures : ∀ c ∈ text, IsFigure c) : isDateKeyword text = false := by
  have lower : text.map Text.asciiLower = text :=
    (List.map_congr_left fun c member => (figures c member).asciiLower).trans (List.map_id text)
  refine Bool.eq_false_iff.mpr fun keyword => ?_
  rw [isDateKeyword, lower, List.contains_iff_mem] at keyword
  obtain ⟨c, member, letter⟩ := List.any_eq_true.mp (letter_of_mem_dateKeywords _ keyword)
  rw [String.toList_ofList] at member
  exact of_decide_eq_true letter (figures c member)

/-- Figures are read by nothing but the numeric layouts. -/
theorem date_of_figures (given : text ≠ []) (figures : ∀ c ∈ text, IsFigure c)
    (around : Text.Padded text padded) :
    date padded = true ↔ ReadsNumeric text := by
  have isWord : Text.IsWord text := ⟨given, fun c member => (figures c member).not_isBlank⟩
  have noColon : ':' ∉ text := fun member => absurd (figures ':' member) (by decide)
  have moments : momentLayouts.any
      (·.fits (fun reading => reading.hasDate && reading.hasTime) text) = false :=
    List.any_eq_false.mpr fun layout member => by
      simp [fits_of_mark (clock_of_mem_momentLayouts layout member) noColon]
  have times : timeLayouts.any (·.fits Reading.hasTime text) = false :=
    List.any_eq_false.mpr fun layout member => by
      simp [fits_of_mark (clock_of_mem_timeLayouts layout member) noColon]
  have nonempty : text.isEmpty = false := by simpa using given
  simp only [date, Text.trim_of_padded isWord around, isDateKeyword_of_figures figures,
    isNumericTimestamp_of_figures figures, isMailTimestamp_of_figures figures, moments, times,
    nonempty, Bool.not_false, Bool.true_and, Bool.false_or, Bool.or_false, dayLayouts_any_iff figures]

/-- A day in figures, with zeros in front of short numbers. -/
def numericDates (year month day : Nat) : List (List Char) :=
  let inYear := writePadded 4 year
  let inMonth := writePadded 2 month
  let inDay := writePadded 2 day
  [inYear ++ '-' :: (inMonth ++ '-' :: inDay), inYear ++ '/' :: (inMonth ++ '/' :: inDay),
    inMonth ++ '/' :: (inDay ++ '/' :: inYear), inDay ++ '-' :: (inMonth ++ '-' :: inYear),
    inDay ++ '.' :: (inMonth ++ '.' :: inYear), inYear ++ (inMonth ++ inDay)]

theorem numericDates_eq (year month day : Nat) :
    numericDates year month day = numericLayouts.map (Layout.write year month day) := by
  simp [numericDates, numericLayouts, Layout.write, yearFirst, monthFirst, dayFirst, unmarked,
    Item.write]

/-- A day in figures passes just when it is in the calendar. -/
theorem date_iff_inCalendar (fourDigits : year ≤ 9999) (inMonth : month ≤ 99) (inDay : day ≤ 99)
    (isWritten : written ∈ numericDates year month day) (around : Text.Padded written padded) :
    date padded = true ↔ InCalendar year month day := by
  have fit : Fit year month day := ⟨fourDigits, inMonth, inDay⟩
  rw [numericDates_eq] at isWritten
  obtain ⟨layout, own, rfl⟩ := List.mem_map.mp isWritten
  exact (date_of_figures (write_ne_nil fit own)
    (fun _ => isFigure_of_mem_write fit (isNumeric_of_mem_numericLayouts layout own)) around).trans
    (readsNumeric_write_iff fit own)

/-- Two first years of centuries, only one of them a leap year. -/
theorem leap_day_of_2000_passes :
    "29.02.2000".toList ∈ numericDates 2000 2 29 ∧
    Text.Padded "29.02.2000".toList " 29.02.2000\n".toList ∧
    date " 29.02.2000\n".toList = true ∧
    "19000229".toList ∈ numericDates 1900 2 29 ∧ date "19000229".toList = false := by
  have marked : "29.02.2000".toList ∈ numericDates 2000 2 29 := by decide
  have unmarked : "19000229".toList ∈ numericDates 1900 2 29 := by decide
  have around : Text.Padded "29.02.2000".toList " 29.02.2000\n".toList :=
    ⟨[' '], ['\n'], rfl, by simp; rfl, by simp; rfl⟩
  refine ⟨marked, around, ?_, unmarked, ?_⟩
  · have leap : IsLeap 2000 := ⟨by decide, fun _ => by decide⟩
    exact (date_iff_inCalendar (by decide) (by decide) (by decide) marked around).mpr
      ⟨29, .leap leap, by decide, by decide⟩
  · have alone : Text.Padded "19000229".toList "19000229".toList :=
      ⟨[], [], rfl, by simp, by simp⟩
    have absent : ¬InCalendar 1900 2 29 := mt (isDay_iff (by decide)).mpr (by decide)
    exact Bool.eq_false_iff.mpr
      (mt (date_iff_inCalendar (by decide) (by decide) (by decide) unmarked alone).mp absent)

end FieldCheck.Rules
