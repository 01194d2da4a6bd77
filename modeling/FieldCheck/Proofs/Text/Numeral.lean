import FieldCheck.Text.Blank
import FieldCheck.Text.Numeral
import Mathlib.Data.List.Basic
import Mathlib.Data.List.Induction

namespace FieldCheck.Text

variable {c : Char} {value width : Nat} {digits : List Char}

theorem isDigit_iff : isDigit c = true ↔ 0x30 ≤ c.toNat ∧ c.toNat ≤ 0x39 := by
  rw [isDigit, Bool.and_eq_true, decide_eq_true_eq, decide_eq_true_eq]
  exact Iff.rfl

theorem digitChar_digitValue (digit : isDigit c = true) : Nat.digitChar (digitValue c) = c := by
  obtain ⟨least, most⟩ := isDigit_iff.mp digit
  have small : digitValue c < 10 := by unfold digitValue; omega
  refine Char.toNat_inj.mp ?_
  rw [Nat.toNat_digitChar_of_lt_ten small, digitValue]
  omega

theorem digitValue_lt (digit : isDigit c = true) : digitValue c < 10 := by
  have bounds := isDigit_iff.mp digit
  unfold digitValue
  omega

theorem not_isBlank_of_isDigit (digit : isDigit c = true) : isBlank c = false := by
  have bounds := isDigit_iff.mp digit
  simp [isBlank]
  omega

theorem not_mem_of_digits (each : ∀ c ∈ digits, isDigit c = true) (notDigit : isDigit c = false) :
    c ∉ digits := by
  intro member
  rw [each c member] at notDigit
  cases notDigit

theorem isDigit_of_mem_writeNat (member : c ∈ writeNat value) : isDigit c = true :=
  Nat.isDigit_of_mem_toDigits (by decide) (by decide) member

theorem writeNat_ne_nil (value : Nat) : writeNat value ≠ [] := Nat.toDigits_ne_nil

theorem writeNat_eq_concat (value : Nat) :
    ∃ front, writeNat value = front ++ [Nat.digitChar (value % 10)] := by
  rw [writeNat, Nat.toDigits_eq_if (by decide)]
  split
  · rename_i single
    exact ⟨[], by rw [Nat.mod_eq_of_lt single, List.nil_append]⟩
  · exact ⟨_, rfl⟩

theorem writeNat_ten_mul (given : value ≠ 0) : writeNat (10 * value) = writeNat value ++ ['0'] := by
  have appended := Nat.toDigits_append_toDigits (b := 10) (by decide) (Nat.pos_of_ne_zero given)
    (show 0 < 10 by decide)
  rw [Nat.toDigits_zero, Nat.add_zero] at appended
  exact appended.symm

theorem writeNat_of_ten_le (large : 10 ≤ value) :
    writeNat value = writeNat (value / 10) ++ [Nat.digitChar (value % 10)] :=
  Nat.toDigits_of_base_le (by decide) large

theorem length_writeNat_le_iff (given : width ≠ 0) :
    (writeNat value).length ≤ width ↔ value < Nat.pow 10 width :=
  Nat.length_toDigits_le_iff (by decide) (Nat.pos_of_ne_zero given)

theorem valueOfDigits_writeNat (value : Nat) : valueOfDigits (writeNat value) = value :=
  Nat.ofDigitChars_ten_toDigits

theorem valueOfDigits_concat (front : List Char) (c : Char) :
    valueOfDigits (front ++ [c]) = 10 * valueOfDigits front + digitValue c :=
  List.foldl_append

theorem valueOfDigits_zeros (count : Nat) (digits : List Char) :
    valueOfDigits (List.replicate count '0' ++ digits) = valueOfDigits digits := by
  have zeros : Nat.ofDigitChars 10 (List.replicate count '0') 0 = 0 := by
    rw [Nat.ofDigitChars_replicate_zero, Nat.mul_zero]
  have appended := Nat.ofDigitChars_append (b := 10) (l := List.replicate count '0') (m := digits) 0
  rw [zeros] at appended
  exact appended

/-- A number with zeros in front up to a width. -/
def writePadded (width value : Nat) : List Char :=
  (writeNat value).leftpad width '0'

/-- So many digits. -/
structure IsField (width : Nat) (digits : List Char) : Prop where
  length : digits.length = width
  each : ∀ c ∈ digits, isDigit c = true

theorem isField_writePadded (given : width ≠ 0) (fits : value < Nat.pow 10 width) :
    IsField width (writePadded width value) := by
  have short := (length_writeNat_le_iff given).mpr fits
  refine ⟨List.length_leftpad.trans (Nat.max_eq_left short), fun c member => ?_⟩
  rcases List.mem_append.mp member with zero | inNumber
  · rw [List.eq_of_mem_replicate zero]
    rfl
  · exact isDigit_of_mem_writeNat inNumber

theorem valueOfDigits_writePadded (width value : Nat) :
    valueOfDigits (writePadded width value) = value :=
  (valueOfDigits_zeros _ _).trans (valueOfDigits_writeNat value)

theorem IsField.ne_nil (field : IsField width digits) (given : width ≠ 0) : digits ≠ [] := by
  rintro rfl
  exact given field.length.symm

theorem IsField.split (first second : Nat) (field : IsField (first + second) digits) :
    ∃ front back, digits = front ++ back ∧ IsField first front ∧ IsField second back := by
  have length := field.length
  refine ⟨digits.take first, digits.drop first, (List.take_append_drop _ _).symm,
    ⟨?_, fun c member => field.each c (List.mem_of_mem_take member)⟩,
    ⟨?_, fun c member => field.each c (List.mem_of_mem_drop member)⟩⟩
  · rw [List.length_take]
    omega
  · rw [List.length_drop]
    omega

/-- No zero stands in front of other digits. -/
def Unpadded (digits : List Char) : Prop := digits.length = 1 ∨ digits.head? ≠ some '0'

theorem head?_writeNat_ne_zero (given : value ≠ 0) : (writeNat value).head? ≠ some '0' := by
  induction value using Nat.strongRecOn with
  | ind value smaller =>
      by_cases large : 10 ≤ value
      · have leading : value / 10 ≠ 0 := by omega
        rw [writeNat_of_ten_le large, List.head?_append_of_ne_nil _ (writeNat_ne_nil _)]
        exact smaller (value / 10) (by omega) leading
      · have single : value < 10 := Nat.lt_of_not_le large
        rw [writeNat, Nat.toDigits_of_lt_base single]
        intro zero
        have code := congrArg Char.toNat (Option.some.inj zero)
        rw [Nat.toNat_digitChar_of_lt_ten single] at code
        exact given (Nat.add_left_cancel code)

theorem unpadded_writeNat (value : Nat) : Unpadded (writeNat value) := by
  by_cases zero : value = 0
  · subst zero
    exact .inl rfl
  · exact .inr (head?_writeNat_ne_zero zero)

theorem writeNat_valueOfDigits (given : digits ≠ []) (each : ∀ c ∈ digits, isDigit c = true)
    (unpadded : Unpadded digits) : writeNat (valueOfDigits digits) = digits := by
  induction digits using List.reverseRecOn with
  | nil => exact absurd rfl given
  | append_singleton front c frontIH =>
      have last : isDigit c = true := each c (by simp)
      have small := digitValue_lt last
      rw [valueOfDigits_concat]
      by_cases alone : front = []
      · subst alone
        have single : 10 * valueOfDigits [] + digitValue c = digitValue c := by
          rw [show valueOfDigits [] = 0 from rfl, Nat.mul_zero, Nat.zero_add]
        rw [single, writeNat, Nat.toDigits_of_lt_base small, digitChar_digitValue last]
        rfl
      · have noZero : front.head? ≠ some '0' := by
          rcases unpadded with single | noZero
          · rw [List.length_append, List.length_singleton] at single
            exact absurd (List.length_eq_zero_iff.mp (Nat.add_right_cancel single)) alone
          · rwa [List.head?_append_of_ne_nil _ alone] at noZero
        have written := frontIH alone (fun d member => each d (by simp [member])) (.inr noZero)
        have leading : valueOfDigits front ≠ 0 := by
          intro zero
          rw [zero] at written
          exact noZero (written ▸ rfl)
        rw [writeNat_of_ten_le (by omega), show (10 * valueOfDigits front + digitValue c) / 10 =
          valueOfDigits front by omega, written, show (10 * valueOfDigits front + digitValue c) % 10 =
          digitValue c by omega, digitChar_digitValue last]

end FieldCheck.Text
