import FieldCheck.Proofs.Binary64.PlainText
import FieldCheck.Proofs.Rules.NumeralGrammar

namespace FieldCheck

open Text (isDigit not_mem_of_digits)

namespace Binary64

def IsWhole : Binary64 → Prop
  | .finite _ significand exponent _ => Whole significand exponent
  | _ => False

end Binary64

namespace Rules

open Binary64 (plain Whole)

variable {separator c : Char} {text : List Char} {significand : Nat} {exponent : Int}

theorem IsNumeral.digit_or_separator (isNumeral : IsNumeral separator text) (member : c ∈ text) :
    isDigit c = true ∨ c = separator := by
  cases isNumeral with
  | whole _ each => exact .inl (each c member)
  | fraction first _ _ second =>
      rcases List.mem_append.mp member with front | back
      · exact .inl (first c front)
      · rcases List.mem_cons.mp back with rfl | back
        · exact .inr rfl
        · exact .inl (second c back)

theorem isNumeral_magnitude_iff (canonical : Canonical significand exponent)
    (noDigit : isDigit separator = false) :
    IsNumeral separator (plain.magnitude significand exponent) ↔
      separator = '.' ∨ Whole significand exponent := by
  by_cases whole : Whole significand exponent
  · obtain ⟨given, each⟩ := Binary64.magnitude_plain_of_whole canonical whole
    exact iff_of_true (.whole given each (not_mem_of_digits each noDigit)) (.inr whole)
  · obtain ⟨before, after, written, ⟨-, first⟩, given, second⟩ :=
      Binary64.magnitude_plain_of_not_whole canonical whole
    rw [written]
    constructor
    · intro isNumeral
      rcases isNumeral.digit_or_separator (c := '.') (by simp) with digit | same
      · cases digit
      · exact .inl same.symm
    · rintro (rfl | _)
      · exact .fraction first (not_mem_of_digits first noDigit) given second
      · contradiction

theorem mem_magnitude_plain (canonical : Canonical significand exponent)
    (member : c ∈ plain.magnitude significand exponent) : isDigit c = true ∨ c = '.' := by
  have noDigit : isDigit '.' = false := rfl
  have isNumeral := (isNumeral_magnitude_iff canonical noDigit).mpr (.inl rfl)
  exact isNumeral.digit_or_separator member

/-- The sign comes off, and a zero has none. -/
theorem dropMinus_numberText (negative : Bool) (canonical : Canonical significand exponent) :
    dropMinus (Value.numberText (.finite negative significand exponent canonical)).toList =
      plain.magnitude significand exponent := by
  rw [Value.numberText, String.toList_ofList]
  by_cases given : significand = 0
  · subst given
    rfl
  · have isZero : (Binary64.finite negative significand exponent canonical).isZero = false := by
      simpa [Binary64.isZero] using given
    simp only [isZero, Bool.false_eq_true, if_false]
    cases negative with
    | true => rfl
    | false =>
        apply dropMinus_eq_self
        intro signed
        rcases mem_magnitude_plain canonical (List.mem_of_mem_head? signed) with digit | same
        · cases digit
        · cases same

theorem numeric_numberText_iff {x : Binary64} (finite : x.isFinite = true)
    (noDigit : isDigit separator = false) :
    numeric (Value.numberText x).toList separator = true ↔ separator = '.' ∨ x.IsWhole := by
  cases x with
  | nan => cases finite
  | infinite => cases finite
  | finite negative significand exponent canonical =>
      rw [numeric_iff_dropMinus, dropMinus_numberText, isNumeral_magnitude_iff canonical noDigit]
      rfl

end Rules

namespace Library

variable {rule : Rule}

theorem exists_numeric_rule : ∃ rule ∈ rules, rule.name = "numeric" := by decide

theorem numeric_rule (member : rule ∈ rules) (named : rule.name = "numeric") :
    ∀ value arguments context, rule.check value arguments context =
      .of (Rules.numeric value.toText.toList context.config.decimalSeparator) := by
  obtain rfl := eq_of_name member named rfl
  exact fun _ _ _ => rfl

/-- A finite number passes for a numeral just when it is whole or the separator is a point. -/
theorem numeric_passes_number_iff (member : rule ∈ rules) (named : rule.name = "numeric")
    {x : Binary64} (finite : x.isFinite = true) {context : Context}
    (noDigit : isDigit context.config.decimalSeparator = false) (arguments : List String) :
    (rule.check (.number x) arguments context).passed = true ↔
      context.config.decimalSeparator = '.' ∨ x.IsWhole := by
  rw [numeric_rule member named]
  exact Rules.numeric_numberText_iff finite noDigit

/-- A fraction under the separator of fractions. -/
theorem fraction_passes_under_point : ∃ rule ∈ rules, rule.name = "numeric" ∧
    (Binary64.ofDecimal true 15 (-1)).isFinite = true ∧
    isDigit Config.standard.decimalSeparator = false ∧
    (rule.check (.number (Binary64.ofDecimal true 15 (-1))) [] ⟨.empty, .standard, none⟩).passed =
      true := by
  obtain ⟨rule, member, named⟩ := exists_numeric_rule
  have finite : (Binary64.ofDecimal true 15 (-1)).isFinite = true := by decide
  refine ⟨rule, member, named, finite, rfl, ?_⟩
  rw [numeric_passes_number_iff member named finite rfl]
  exact .inl rfl

/-- The same fraction under another one. -/
theorem fraction_fails_under_comma : ∃ rule ∈ rules, rule.name = "numeric" ∧
    (Binary64.ofDecimal false 15 (-1)).isFinite = true ∧
    isDigit (Config.standard.withDecimalSeparator ',').decimalSeparator = false ∧
    (rule.check (.number (Binary64.ofDecimal false 15 (-1))) []
      ⟨.empty, Config.standard.withDecimalSeparator ',', none⟩).passed = false := by
  obtain ⟨rule, member, named⟩ := exists_numeric_rule
  refine ⟨rule, member, named, by decide, rfl, ?_⟩
  rw [numeric_rule member named]
  decide

end Library

end FieldCheck
