import FieldCheck.Binary64.Text
import FieldCheck.Proofs.Binary64.ShortestDecimal
import FieldCheck.Proofs.Text.Numeral

namespace FieldCheck

open Text (isDigit writeNat)

namespace Binary64

variable {digits : List Char} {c : Char} {value : Nat} {point : Int}

theorem length_trimZeros_le (digits : List Char) : (trimZeros digits).length ≤ digits.length := by
  rw [trimZeros, List.length_reverse]
  exact (List.dropWhile_sublist _).length_le.trans_eq List.length_reverse

theorem mem_of_mem_trimZeros (member : c ∈ trimZeros digits) : c ∈ digits := by
  rw [trimZeros, List.mem_reverse] at member
  exact List.mem_reverse.mp ((List.dropWhile_sublist _).mem member)

theorem trimZeros_concat_zero (digits : List Char) :
    trimZeros (digits ++ ['0']) = trimZeros digits := by
  simp [trimZeros]

theorem trimZeros_concat_of_ne (other : c ≠ '0') : trimZeros (digits ++ [c]) = digits ++ [c] := by
  simp [trimZeros, other]

/-- A power of ten divides a number that is written with that many zeros at its end. -/
theorem pow_ten_dvd_iff (given : value ≠ 0) (count : Nat) : 10 ^ count ∣ value ↔
    (trimZeros (writeNat value)).length + count ≤ (writeNat value).length := by
  induction count generalizing value with
  | zero => simpa using length_trimZeros_le (writeNat value)
  | succ count countIH =>
      by_cases tens : 10 ∣ value
      · obtain ⟨rest, rfl⟩ := tens
        have restGiven : rest ≠ 0 := by omega
        have shorter := countIH restGiven
        rw [pow_succ', Nat.mul_dvd_mul_iff_left (by decide), shorter,
          Text.writeNat_ten_mul restGiven, trimZeros_concat_zero, List.length_append,
          List.length_singleton]
        omega
      · obtain ⟨front, written⟩ := Text.writeNat_eq_concat value
        have lastGiven : Nat.digitChar (value % 10) ≠ '0' := by
          rw [Ne, Nat.digitChar_eq_zero]
          omega
        rw [written, trimZeros_concat_of_ne lastGiven]
        constructor
        · intro divides
          exact absurd ((dvd_pow_self 10 count.succ_ne_zero).trans divides) tens
        · intro short
          omega

theorem trimZeros_writeNat_ne_nil (given : value ≠ 0) : trimZeros (writeNat value) ≠ [] := by
  intro trimmed
  have divides : 10 ^ (writeNat value).length ∣ value := by
    rw [pow_ten_dvd_iff given, trimmed]
    simp
  have small : value < 10 ^ (writeNat value).length :=
    (Nat.length_toDigits_le_iff (by decide) Nat.length_toDigits_pos).mp le_rfl
  exact absurd (Nat.le_of_dvd (Nat.pos_of_ne_zero given) divides) (by omega)

theorem zero_digits : ['0'] ≠ [] ∧ ∀ c ∈ ['0'], isDigit c = true := by
  refine ⟨List.cons_ne_nil _ _, fun c member => ?_⟩
  rw [List.mem_singleton.mp member]
  rfl

theorem place_plain_of_fits (given : digits ≠ []) (each : ∀ c ∈ digits, isDigit c = true)
    (fits : digits.length ≤ point) :
    plain.place digits point ≠ [] ∧ ∀ c ∈ plain.place digits point, isDigit c = true := by
  have counted := List.length_pos_of_ne_nil given
  have placed : plain.place digits point =
      digits ++ List.replicate (point.toNat - digits.length) '0' := by
    simp only [Layout.place, plain, if_true]
    rw [if_neg (by omega), if_pos (by omega), List.append_nil]
  rw [placed]
  refine ⟨List.append_ne_nil_of_left_ne_nil given _, fun c member => ?_⟩
  rcases List.mem_append.mp member with written | filled
  · exact each c written
  · rw [List.eq_of_mem_replicate filled]
    decide

theorem place_plain_of_cut (given : digits ≠ []) (each : ∀ c ∈ digits, isDigit c = true)
    (cut : point < digits.length) :
    ∃ before after, plain.place digits point = before ++ '.' :: after ∧
      (before ≠ [] ∧ ∀ c ∈ before, isDigit c = true) ∧
      after ≠ [] ∧ ∀ c ∈ after, isDigit c = true := by
  by_cases front : point ≤ 0
  · refine ⟨['0'], List.replicate (-point).toNat '0' ++ digits, ?_, zero_digits, ?_⟩
    · simp only [Layout.place, plain, if_true, if_pos front]
      rfl
    · refine ⟨List.append_ne_nil_of_right_ne_nil _ ?_, fun c member => ?_⟩
      · exact given
      · rcases List.mem_append.mp member with filled | written
        · rw [List.eq_of_mem_replicate filled]
          decide
        · exact each c written
  · refine ⟨digits.take point.toNat, digits.drop point.toNat, ?_, ⟨?_, ?_⟩, ?_, ?_⟩
    · simp only [Layout.place, plain, if_true, if_neg front]
      rw [if_neg (by omega)]
    · rw [Ne, List.take_eq_nil_iff, not_or]
      exact ⟨by omega, given⟩
    · exact fun c member => each c (List.mem_of_mem_take member)
    · rw [Ne, List.drop_eq_nil_iff]
      omega
    · exact fun c member => each c (List.mem_of_mem_drop member)

section Magnitude

variable {significand : Nat} {exponent : Int}

theorem magnitude_plain_eq (given : significand ≠ 0) : plain.magnitude significand exponent =
    plain.place (trimZeros (writeNat (shortest .up significand exponent).digits))
      ((shortest .up significand exponent).exponent +
        (writeNat (shortest .up significand exponent).digits).length) := by
  rw [Layout.magnitude, if_neg given]
  rfl

theorem whole_iff_fits (canonical : Canonical significand exponent) (given : significand ≠ 0) :
    Whole significand exponent ↔
      (trimZeros (writeNat (shortest .up significand exponent).digits)).length ≤
        (shortest .up significand exponent).exponent +
          (writeNat (shortest .up significand exponent).digits).length := by
  have shorter := length_trimZeros_le (writeNat (shortest .up significand exponent).digits)
  rw [whole_iff_dvd .up canonical given,
    pow_ten_dvd_iff (digits_shortest_ne_zero .up canonical given)]
  omega

/-- A whole number has no point. -/
theorem magnitude_plain_of_whole (canonical : Canonical significand exponent)
    (whole : Whole significand exponent) : plain.magnitude significand exponent ≠ [] ∧
      ∀ c ∈ plain.magnitude significand exponent, isDigit c = true := by
  by_cases given : significand = 0
  · rw [Layout.magnitude, if_pos given]
    exact zero_digits
  · rw [magnitude_plain_eq given]
    apply place_plain_of_fits
    · exact trimZeros_writeNat_ne_nil (digits_shortest_ne_zero .up canonical given)
    · exact fun c member => Text.isDigit_of_mem_writeNat (mem_of_mem_trimZeros member)
    · exact (whole_iff_fits canonical given).mp whole

/-- Any other number has digits on both sides of one. -/
theorem magnitude_plain_of_not_whole (canonical : Canonical significand exponent)
    (broken : ¬Whole significand exponent) :
    ∃ before after, plain.magnitude significand exponent = before ++ '.' :: after ∧
      (before ≠ [] ∧ ∀ c ∈ before, isDigit c = true) ∧
      after ≠ [] ∧ ∀ c ∈ after, isDigit c = true := by
  have given : significand ≠ 0 := by
    rintro rfl
    exact broken ⟨0, by simp [worth]⟩
  rw [magnitude_plain_eq given]
  apply place_plain_of_cut
  · exact trimZeros_writeNat_ne_nil (digits_shortest_ne_zero .up canonical given)
  · exact fun c member => Text.isDigit_of_mem_writeNat (mem_of_mem_trimZeros member)
  · rw [whole_iff_fits canonical given] at broken
    omega

end Magnitude

end Binary64

end FieldCheck
