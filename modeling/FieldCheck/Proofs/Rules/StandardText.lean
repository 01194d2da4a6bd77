import FieldCheck.Proofs.Rules.EmailGrammar
import FieldCheck.Rules.CharacterClass
import FieldCheck.Text.Blank

namespace FieldCheck

/-! What passes for standard text.

Standard text is described as letters, numbers, white space and some punctuation. Its rule goes
by the separators among the general categories, and these are the white space less the control
characters: a tab or a line break is trimmed away as white space, but no separator. So the rule
takes just the texts that are as described and hold no control character.
-/

open Text

variable {c : Char}

namespace Text

/-- The general category `Cc`. -/
def IsControl (c : Char) : Prop :=
  c.toNat < 0x20 ∨ (0x7F ≤ c.toNat ∧ c.toNat < 0xA0)

instance (c : Char) : Decidable (IsControl c) := by
  unfold IsControl
  infer_instance

theorem contains_control : ∀ code < 0xA0, code < 0x20 ∨ 0x7F ≤ code →
    letterRanges.contains code = false ∧ numberRanges.contains code = false ∧
      connectorRanges.contains code = false ∧ dashRanges.contains code = false ∧
      otherPunctuationRanges.contains code = false := by
  decide +kernel

/-- Separators are the white space that is not control characters. -/
theorem isSeparator_iff : isSeparator c = true ↔ isBlank c = true ∧ ¬IsControl c := by
  simp only [isSeparator, separatorRanges, CodeRanges.contains, isBlank, IsControl,
    Bool.if_false_left, Bool.or_false, Bool.or_eq_true, Bool.and_eq_true, Bool.not_eq_true',
    decide_eq_true_eq, decide_eq_false_iff_not, beq_iff_eq]
  omega

end Text

namespace Rules

/-- A character of a kind that standard text is said to be made of. -/
inductive IsTextCharacter (c : Char) : Prop
  | letter (isLetter : isLetter c = true)
  | number (isNumber : isNumber c = true)
  | blank (isBlank : isBlank c = true)
  | connector (isConnector : isConnector c = true)
  | dash (isDash : isDash c = true)
  | punctuation (isPunctuation : isOtherPunctuation c = true)

theorem isTextCharacter_iff : IsTextCharacter c ↔ isLetter c = true ∨ isNumber c = true ∨
    isBlank c = true ∨ isConnector c = true ∨ isDash c = true ∨ isOtherPunctuation c = true := by
  constructor
  · rintro (_ | _ | _ | _ | _ | _) <;> simp_all
  · rintro (isLetter | isNumber | isBlank | isConnector | isDash | isPunctuation)
    · exact .letter isLetter
    · exact .number isNumber
    · exact .blank isBlank
    · exact .connector isConnector
    · exact .dash isDash
    · exact .punctuation isPunctuation

theorem isStandard_iff : isStandard c = true ↔ IsTextCharacter c ∧ ¬IsControl c := by
  simp only [isStandard, Bool.or_eq_true, isSeparator_iff, isTextCharacter_iff]
  by_cases control : IsControl c
  · have outside := contains_control c.toNat (by unfold IsControl at control; omega)
      (by unfold IsControl at control; omega)
    simp [isLetter, isNumber, isConnector, isDash, isOtherPunctuation, outside, control]
  · simp [control, or_assoc]

/-- What standard text is said to be. -/
structure IsDescribedText (text : List Char) : Prop where
  given : text ≠ []
  each : ∀ c ∈ text, IsTextCharacter c

/-- The rule takes the texts that are as described and hold no control character. The ones that
it turns down for a control character are those with a tab, a line break or another blank of
this kind, for a control character of any other kind is not described either. -/
theorem standardText_iff_without_controls (text : List Char) :
    standardText text = true ↔ IsDescribedText text ∧ ∀ c ∈ text, ¬IsControl c := by
  rw [standardText, madeOf_iff fun c => isStandard_iff]
  constructor
  · rintro ⟨given, each⟩
    exact ⟨⟨given, fun c member => (each c member).1⟩, fun c member => (each c member).2⟩
  · rintro ⟨⟨given, each⟩, uncontrolled⟩
    exact ⟨given, fun c member => ⟨each c member, uncontrolled c member⟩⟩

/-- A tab between two letters is white space, and no standard text. -/
theorem tab_is_no_standard_text :
    IsDescribedText ['a', '\t', 'b'] ∧ standardText ['a', '\t', 'b'] = false ∧
      ¬∀ text, standardText text = true ↔ IsDescribedText text := by
  have described : IsDescribedText ['a', '\t', 'b'] := by
    refine ⟨List.cons_ne_nil _ _, fun c member => ?_⟩
    simp only [List.mem_cons, List.not_mem_nil, or_false] at member
    rcases member with rfl | rfl | rfl
    · exact .letter rfl
    · exact .blank rfl
    · exact .letter rfl
  have refused : standardText ['a', '\t', 'b'] = false := by rfl
  refine ⟨described, refused, fun agree => ?_⟩
  rw [← agree, refused] at described
  cases described

end Rules

end FieldCheck
