import FieldCheck.Date.Timestamp
import FieldCheck.Proofs.Text.Numeral

namespace FieldCheck.Date

/-! What the readers of dates and times consume.

Every reader takes something off the front of a text and leaves the rest. So whatever a layout
has to find must be somewhere in the text: a text without a mark fits no layout that holds the
mark, and one without letters none that holds a name. The timestamps have marks of their own.
-/

open Text (isDigit isBlank)

variable {text rest : List Char} {width count : Nat} {item : Item} {layout : Layout}
  {reading after : Reading}

theorem trimStart_suffix (text : List Char) : Text.trimStart text <:+ text :=
  List.dropWhile_suffix _

theorem readNumber?_suffix {value : Nat} (read : readNumber? width text = some (value, rest)) :
    rest <:+ text := by
  obtain ⟨-, same⟩ := Option.ite_none_left_eq_some.mp read
  cases same
  exact List.drop_suffix _ _

theorem readDigits?_suffix {value : Nat} (read : readDigits? text = some (value, rest)) :
    rest <:+ text := by
  obtain ⟨-, same⟩ := Option.ite_none_left_eq_some.mp read
  cases same
  exact List.dropWhile_suffix _

theorem readYear?_suffix {year : Int} (read : readYear? text = some (year, rest)) :
    rest <:+ text := by
  unfold readYear? at read
  split at read
  all_goals
    obtain ⟨⟨value, left⟩, found, same⟩ := Option.map_eq_some_iff.mp read
    cases same
  · exact (readDigits?_suffix found).trans (List.suffix_cons _ _)
  · exact (readDigits?_suffix found).trans (List.suffix_cons _ _)
  · exact readNumber?_suffix found

theorem readBetween?_suffix {least most value : Nat}
    (read : readBetween? least most text = some (value, rest)) : rest <:+ text := by
  unfold readBetween? at read
  split at read
  · rename_i found
    obtain ⟨-, same⟩ := Option.ite_none_right_eq_some.mp read
    cases same
    exact (readNumber?_suffix found).trans (trimStart_suffix text)
  · cases read

theorem dropWord?_suffix {word : List Char} (read : dropWord? word text = some rest) :
    rest <:+ text := by
  obtain ⟨-, same⟩ := Option.ite_none_right_eq_some.mp read
  cases same
  exact List.drop_suffix _ _

theorem readHalf?_suffix {half : Bool} (read : readHalf? text = some (half, rest)) :
    rest <:+ text := by
  unfold readHalf? at read
  split at read
  · rename_i found
    cases read
    exact dropWord?_suffix found
  · rename_i found
    cases read
    exact dropWord?_suffix found
  · cases read

theorem readName?_suffix {long : Bool} {names : List Name} {number : Nat}
    (read : readName? long count names text = some (number, rest)) : rest <:+ text := by
  induction names generalizing count with
  | nil => cases read
  | cons name names namesIH =>
      unfold readName? at read
      split at read
      · rename_i behind found
        have short := dropWord?_suffix found
        cases read
        split
        · cases ending : dropWord? name.ending behind with
          | none => exact short
          | some left => exact (dropWord?_suffix ending).trans short
        · exact short
      · exact namesIH read

theorem readItem?_suffix (read : readItem? item reading text = some (after, rest)) :
    rest <:+ text := by
  cases item with
  | mark c =>
      cases text with
      | nil => cases read
      | cons first behind =>
          obtain ⟨-, same⟩ := Option.ite_none_right_eq_some.mp read
          cases same
          exact List.suffix_cons _ _
  | gap =>
      cases read
      exact trimStart_suffix text
  | year =>
      obtain ⟨⟨value, left⟩, found, same⟩ := Option.map_eq_some_iff.mp read
      cases same
      exact (readYear?_suffix found).trans (trimStart_suffix text)
  | half =>
      obtain ⟨⟨value, left⟩, found, same⟩ := Option.map_eq_some_iff.mp read
      cases same
      exact readHalf?_suffix found
  | monthName =>
      obtain ⟨⟨value, left⟩, found, same⟩ := Option.map_eq_some_iff.mp read
      cases same
      exact readName?_suffix found
  | weekdayName =>
      obtain ⟨⟨value, left⟩, found, same⟩ := Option.map_eq_some_iff.mp read
      cases same
      exact readName?_suffix found
  | month | day | hour | halfDayHour | minute | second =>
      obtain ⟨⟨value, left⟩, found, same⟩ := Option.map_eq_some_iff.mp read
      cases same
      exact readBetween?_suffix found

/-- The item reads nothing from a text of such characters alone. -/
def Item.Foreign (Member : Char → Prop) (item : Item) : Prop :=
  ∀ reading text, (∀ c ∈ text, Member c) → readItem? item reading text = none

theorem fits_of_foreign {Member : Char → Prop} (member : item ∈ layout)
    (foreign : item.Foreign Member) (each : ∀ c ∈ text, Member c) (judge : Reading → Bool) :
    layout.fits judge text = false := by
  have unread (reading : Reading) : layout.readFrom? reading text = none := by
    induction layout generalizing reading text with
    | nil => cases member
    | cons first items itemsIH =>
        cases read : readItem? first reading text with
        | none => rw [Layout.readFrom?, read]
        | some result =>
            obtain ⟨next, left⟩ := result
            have leftEach : ∀ c ∈ left, Member c := fun c among =>
              each c ((readItem?_suffix read).subset among)
            rcases List.mem_cons.mp member with rfl | later
            · rw [foreign reading text each] at read
              cases read
            · rw [Layout.readFrom?, read]
              exact itemsIH later leftEach next
  rw [Layout.fits, Layout.read?, unread]

theorem foreign_mark (c : Char) : (Item.mark c).Foreign (· ≠ c) := by
  intro reading text each
  cases text with
  | nil => rfl
  | cons first rest => exact if_neg (each first List.mem_cons_self)

theorem fits_of_mark {c : Char} (member : .mark c ∈ layout) (absent : c ∉ text)
    (judge : Reading → Bool) : layout.fits judge text = false :=
  fits_of_foreign member (foreign_mark c) (fun _ among => ne_of_mem_of_not_mem among absent) judge

/-- What stands between the numbers of a date. -/
def marks : List Char := ['-', '/', '.']

theorem not_isDigit_of_mem_marks {c : Char} (mark : c ∈ marks) : isDigit c = false := by
  simp only [marks, List.mem_cons, List.not_mem_nil, or_false] at mark
  rcases mark with rfl | rfl | rfl <;> rfl

/-- What the days of the calendar are written in where months are numbers. -/
def IsFigure (c : Char) : Prop := isDigit c = true ∨ c ∈ marks

instance : DecidablePred IsFigure := fun _ => inferInstanceAs (Decidable (_ ∨ _))

theorem IsFigure.code {c : Char} (figure : IsFigure c) :
    (0x30 ≤ c.toNat ∧ c.toNat ≤ 0x39) ∨ c.toNat = 0x2D ∨ c.toNat = 0x2F ∨ c.toNat = 0x2E := by
  rcases figure with digit | mark
  · exact .inl (Text.isDigit_iff.mp digit)
  · simp only [marks, List.mem_cons, List.not_mem_nil, or_false] at mark
    rcases mark with rfl | rfl | rfl <;> decide

theorem IsFigure.not_isBlank {c : Char} (figure : IsFigure c) : isBlank c = false := by
  have code := figure.code
  simp [isBlank]
  omega

theorem IsFigure.asciiLower {c : Char} (figure : IsFigure c) : Text.asciiLower c = c := by
  have code := figure.code
  refine if_neg ?_
  rintro ⟨least, most⟩
  have lower : 65 ≤ c.toNat := least
  omega

theorem dropWord?_of_figures {first : Char} {word : List Char} (letter : ¬IsFigure first)
    (figures : ∀ c ∈ text, IsFigure c) : dropWord? (first :: word) text = none := by
  refine if_neg ?_
  cases text with
  | nil => simp
  | cons c behind =>
      have figure := figures c List.mem_cons_self
      simp only [List.length_cons, List.take_succ_cons, List.map_cons, List.cons.injEq,
        figure.asciiLower, not_and]
      rintro rfl
      exact absurd figure letter

theorem readName?_of_figures {long : Bool} {names : List Name}
    (letters : ∀ name ∈ names, name.short.head?.any (¬IsFigure ·) = true)
    (figures : ∀ c ∈ text, IsFigure c) : readName? long count names text = none := by
  induction names generalizing count with
  | nil => rfl
  | cons name names namesIH =>
      obtain ⟨initial, others⟩ := List.forall_mem_cons.mp letters
      obtain ⟨first, head, letter⟩ := (Option.any_eq_true _ _).mp initial
      obtain ⟨word, short⟩ := List.head?_eq_some_iff.mp head
      rw [readName?, short, dropWord?_of_figures (of_decide_eq_true letter) figures]
      exact namesIH others

theorem letters_monthNames :
    ∀ name ∈ monthNames, name.short.head?.any (¬IsFigure ·) = true := by
  decide +kernel

theorem foreign_monthName (long : Bool) : (Item.monthName long).Foreign IsFigure := by
  intro reading text figures
  rw [readItem?, readMonth?, readName?_of_figures letters_monthNames figures, Option.map_none]

namespace Timestamp

theorem twoDigits?_suffix {value : Nat} (read : twoDigits? text = some (value, rest)) :
    rest <:+ text := by
  unfold twoDigits? at read
  split at read
  · obtain ⟨-, same⟩ := Option.ite_none_right_eq_some.mp read
    cases same
    exact (List.suffix_cons _ _).trans (List.suffix_cons _ _)
  · cases read

theorem fourDigits?_suffix {value : Nat} (read : fourDigits? text = some (value, rest)) :
    rest <:+ text := by
  simp only [fourDigits?, Option.bind_eq_bind, Option.bind_eq_some_iff] at read
  obtain ⟨⟨century, middle⟩, first, ⟨year, last⟩, second, same⟩ := read
  cases same
  exact (twoDigits?_suffix second).trans (twoDigits?_suffix first)

theorem mark?_suffix {c : Char} (read : mark? c text = some rest) : rest <:+ text := by
  cases text with
  | nil => cases read
  | cons first behind =>
      obtain ⟨-, same⟩ := Option.ite_none_right_eq_some.mp read
      cases same
      exact List.suffix_cons _ _

theorem mailWeekday?_suffix {weekday : Option Nat}
    (read : mailWeekday? text = some (weekday, rest)) : rest <:+ text := by
  unfold mailWeekday? at read
  split at read
  · rename_i found
    obtain ⟨left, marked, same⟩ := Option.map_eq_some_iff.mp read
    cases same
    exact (mark?_suffix marked).trans (readName?_suffix found)
  · cases read
    exact List.suffix_refl _

/-- Between day and hour there has to be a letter or a blank. -/
theorem numeric?_of_figures (figures : ∀ c ∈ text, IsFigure c) : numeric? text = none := by
  refine Option.eq_none_iff_forall_ne_some.mpr fun result read => ?_
  simp only [numeric?, Option.bind_eq_bind, Option.bind_eq_some_iff] at read
  obtain ⟨⟨year, afterYear⟩, readYear, behindYear, mark, ⟨month, afterMonth⟩, readMonth,
    behindMonth, markAgain, ⟨day, afterDay⟩, readDay, divided⟩ := read
  have inText : ∀ c ∈ afterDay, IsFigure c := fun c member =>
    figures c ((twoDigits?_suffix readDay).trans ((mark?_suffix markAgain).trans
      ((twoDigits?_suffix readMonth).trans ((mark?_suffix mark).trans
        (fourDigits?_suffix readYear)))) |>.subset member)
  dsimp only at divided
  split at divided
  · exact absurd (inText 'T' List.mem_cons_self) (by decide)
  · exact absurd (inText 't' List.mem_cons_self) (by decide)
  · exact absurd (inText ' ' List.mem_cons_self) (by decide)
  · cases divided

/-- Behind the day there has to be a blank. -/
theorem mail?_of_figures (figures : ∀ c ∈ text, IsFigure c) : mail? text = none := by
  refine Option.eq_none_iff_forall_ne_some.mpr fun result read => ?_
  simp only [mail?, Option.bind_eq_bind, Option.bind_eq_some_iff] at read
  obtain ⟨⟨weekday, afterWeekday⟩, readWeekday, ⟨day, afterDay⟩, readDay, behindDay, divided, -⟩ :=
    read
  have inText : ∀ c ∈ afterDay, IsFigure c := fun c member =>
    figures c ((readNumber?_suffix readDay).trans ((trimStart_suffix _).trans
      ((mailWeekday?_suffix readWeekday).trans (trimStart_suffix _))) |>.subset member)
  cases afterDay with
  | nil => cases divided
  | cons c left =>
      obtain ⟨blank, -⟩ := Option.ite_none_right_eq_some.mp divided
      rw [(inText c List.mem_cons_self).not_isBlank] at blank
      cases blank

end Timestamp

theorem isNumericTimestamp_of_figures (figures : ∀ c ∈ text, IsFigure c) :
    isNumericTimestamp text = false := by
  rw [isNumericTimestamp, Timestamp.numeric?_of_figures figures]

theorem isMailTimestamp_of_figures (figures : ∀ c ∈ text, IsFigure c) :
    isMailTimestamp text = false := by
  rw [isMailTimestamp, Timestamp.mail?_of_figures figures]

end FieldCheck.Date
