import FieldCheck.Proofs.Rules.StandardText
import FieldCheck.Proofs.Text.Ascii
import FieldCheck.Proofs.Text.Numeral

namespace FieldCheck

open Text

namespace Text

theorem contains_of_ascii : ∀ code < 0x80,
    letterRanges.contains code =
      (decide (0x61 ≤ code ∧ code ≤ 0x7A) || decide (0x41 ≤ code ∧ code ≤ 0x5A)) ∧
    numberRanges.contains code = decide (0x30 ≤ code ∧ code ≤ 0x39) := by
  decide +kernel

end Text

namespace Rules

variable {c : Char} {text : List Char}

theorem isAsciiLetter_eq (c : Char) : isAsciiLetter c =
    (decide (0x61 ≤ c.toNat ∧ c.toNat ≤ 0x7A) || decide (0x41 ≤ c.toNat ∧ c.toNat ≤ 0x5A)) := by
  simp only [Bool.decide_and]
  rfl

/-- The narrow class holds the characters of ASCII that the wide one holds, and no other. -/
def IsAsciiPart (narrow wide : Char → Bool) : Prop :=
  ∀ c, narrow c = true ↔ wide c = true ∧ c.toNat < 0x80

theorem isAsciiPart_letter : IsAsciiPart (letterIn false) (letterIn true) := by
  intro c
  rw [letterIn, letterIn, if_neg Bool.false_ne_true, if_pos rfl, isAsciiLetter_eq]
  by_cases ascii : c.toNat < 0x80
  · rw [isLetter, (contains_of_ascii c.toNat ascii).1]
    simp [ascii]
  · simp only [ascii, and_false, iff_false, Bool.or_eq_true, decide_eq_true_eq]
    omega

theorem isAsciiPart_number : IsAsciiPart (numberIn false) (numberIn true) := by
  intro c
  rw [numberIn, numberIn, if_neg Bool.false_ne_true, if_pos rfl, isDigit_iff]
  by_cases ascii : c.toNat < 0x80
  · rw [isNumber, (contains_of_ascii c.toNat ascii).2, decide_eq_true_eq]
    simp only [ascii, and_true]
  · simp only [ascii, and_false, iff_false]
    omega

theorem isAsciiPart_single (ascii : c.toNat < 0x80) : IsAsciiPart (· == c) (· == c) := by
  intro other
  rw [iff_self_and, beq_iff_eq]
  rintro rfl
  exact ascii

theorem IsAsciiPart.or {narrow wide narrow' wide' : Char → Bool}
    (first : IsAsciiPart narrow wide) (second : IsAsciiPart narrow' wide') :
    IsAsciiPart (fun c => narrow c || narrow' c) (fun c => wide c || wide' c) := by
  intro c
  rw [Bool.or_eq_true, Bool.or_eq_true, first c, second c, or_and_right]

theorem IsAsciiPart.madeOf_iff {narrow wide : Char → Bool} (part : IsAsciiPart narrow wide) :
    madeOf narrow text = true ↔ madeOf wide text = true ∧ IsAscii text := by
  rw [Rules.madeOf_iff part, Rules.madeOf_iff fun c => Iff.rfl, and_assoc]
  simp only [IsAscii, forall_and]

theorem madeOf_mono {narrow wide : Char → Bool} (within : ∀ c, narrow c = true → wide c = true)
    (made : madeOf narrow text = true) : madeOf wide text = true := by
  obtain ⟨given, each⟩ := (madeOf_iff fun _ => Iff.rfl).mp made
  exact (madeOf_iff fun _ => Iff.rfl).mpr ⟨given, fun c member => within c (each c member)⟩

theorem isAsciiPart_alphaNumeric : IsAsciiPart (fun c => letterIn false c || numberIn false c)
    (fun c => letterIn true c || numberIn true c) :=
  isAsciiPart_letter.or isAsciiPart_number

theorem isAsciiPart_alphaDash :
    IsAsciiPart (fun c => letterIn false c || numberIn false c || c == '-' || c == '_')
      (fun c => letterIn true c || numberIn true c || c == '-' || c == '_') :=
  (isAsciiPart_alphaNumeric.or (isAsciiPart_single (by decide))).or
    (isAsciiPart_single (by decide))

theorem alphaNumeric_of_alpha {unicode : Bool} (accepted : alpha text unicode = true) :
    alphaNumeric text unicode = true :=
  madeOf_mono (fun _ letter => by rw [letter, Bool.true_or]) accepted

theorem alphaNumeric_of_digit {unicode : Bool} (accepted : digit text unicode = true) :
    alphaNumeric text unicode = true :=
  madeOf_mono (fun _ number => by rw [number, Bool.or_true]) accepted

theorem alphaDash_of_alphaNumeric {unicode : Bool} (accepted : alphaNumeric text unicode = true) :
    alphaDash text unicode = true :=
  madeOf_mono (fun _ member => by rw [member, Bool.true_or, Bool.true_or]) accepted

theorem alphaDash_false_iff :
    alphaDash text false = true ↔ alphaDash text true = true ∧ IsAscii text :=
  isAsciiPart_alphaDash.madeOf_iff

/-- The dash is among the dashes and the underscore among the connectors. In ASCII mode the
class is a part of that in the other mode. -/
theorem standardText_of_alphaDash {unicode : Bool} (accepted : alphaDash text unicode = true) :
    standardText text = true := by
  have everyScript : alphaDash text true = true := by
    cases unicode with
    | false => exact (alphaDash_false_iff.mp accepted).1
    | true => exact accepted
  refine madeOf_mono (fun c member => ?_) everyScript
  simp only [Bool.or_eq_true, beq_iff_eq] at member
  rcases member with ((letter | number) | rfl) | rfl
  · have isLetter : isLetter c = true := letter
    simp [isStandard, isLetter]
  · have isNumber : isNumber c = true := number
    simp [isStandard, isNumber]
  · rfl
  · rfl

/-- ASCII mode is the other mode on texts of ASCII, and in either mode letters alone or numbers
alone are letters and numbers, these with dashes and underscores are a wider class, and all of
them are standard text. -/
theorem ascii_mode_and_nested_classes (text : List Char) :
    (∀ judge ∈ [alpha, alphaNumeric, alphaDash, digit],
      (judge text false = true ↔ judge text true = true ∧ IsAscii text)) ∧
    ∀ unicode, (alpha text unicode = true ∨ digit text unicode = true →
        alphaNumeric text unicode = true) ∧
      (alphaNumeric text unicode = true → alphaDash text unicode = true) ∧
      (alphaDash text unicode = true → standardText text = true) := by
  constructor
  · simp only [List.forall_mem_cons, List.not_mem_nil, false_imp_iff, implies_true, and_true]
    exact ⟨isAsciiPart_letter.madeOf_iff, isAsciiPart_alphaNumeric.madeOf_iff,
      alphaDash_false_iff, isAsciiPart_number.madeOf_iff⟩
  · intro unicode
    refine ⟨?_, alphaDash_of_alphaNumeric, standardText_of_alphaDash⟩
    rintro (letters | numbers)
    · exact alphaNumeric_of_alpha letters
    · exact alphaNumeric_of_digit numbers

/-- The Arabic digits one and two are numbers, though not of ASCII, and so they are letters and
numbers, and standard text. -/
theorem arabic_digits_beyond_ascii :
    (digit ['\u0661', '\u0662'] false = false ∧ digit ['\u0661', '\u0662'] true = true) ∧
      ¬IsAscii ['\u0661', '\u0662'] ∧ alphaNumeric ['\u0661', '\u0662'] true = true ∧
      standardText ['\u0661', '\u0662'] = true := by
  have numbers : digit ['\u0661', '\u0662'] true = true := by decide +kernel
  have beyond : ¬IsAscii ['\u0661', '\u0662'] := by decide
  obtain ⟨modes, nested⟩ := ascii_mode_and_nested_classes ['\u0661', '\u0662']
  obtain ⟨wider, widerStill, standard⟩ := nested true
  have letters := wider (.inr numbers)
  refine ⟨⟨Bool.eq_false_iff.mpr fun narrow => ?_, numbers⟩, beyond, letters,
    standard (widerStill letters)⟩
  exact beyond ((modes digit (by simp)).mp narrow).2

end Rules

end FieldCheck
