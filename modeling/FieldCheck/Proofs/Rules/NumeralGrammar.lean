import FieldCheck.Proofs.Contract.RuleArguments
import FieldCheck.Proofs.Text.Separators

namespace FieldCheck

namespace Rules

open Text (isDigit allDigits splitOnce)

variable {text body : List Char} {separator : Char}

/-- What is left of a text without its sign: a minus at the front is one, and is always
taken off. -/
inductive Unsigned : List Char → List Char → Prop
  | minus (body : List Char) : Unsigned ('-' :: body) body
  | plain {text : List Char} (noSign : text.head? ≠ some '-') : Unsigned text text

/-- Digits alone, or a separator with digits behind it and perhaps in front. No separator
stands among the first digits. -/
inductive IsNumeral (separator : Char) : List Char → Prop
  | whole {digits : List Char} (given : digits ≠ []) (each : ∀ c ∈ digits, isDigit c = true)
      (fresh : separator ∉ digits) : IsNumeral separator digits
  | fraction {before after : List Char} (first : ∀ c ∈ before, isDigit c = true)
      (fresh : separator ∉ before) (given : after ≠ []) (second : ∀ c ∈ after, isDigit c = true) :
      IsNumeral separator (before ++ separator :: after)

theorem unsigned_iff : Unsigned text body ↔ body = dropMinus text := by
  constructor
  · intro unsigned
    cases unsigned with
    | minus => rfl
    | plain noSign =>
        unfold dropMinus
        split
        · simp at noSign
        · rfl
  · rintro rfl
    unfold dropMinus
    split
    · exact .minus _
    · rename_i other
      refine .plain fun signed => ?_
      obtain ⟨rest, rfl⟩ := List.head?_eq_some_iff.mp signed
      exact other rest rfl

theorem dropMinus_eq_self (noSign : text.head? ≠ some '-') : dropMinus text = text :=
  (unsigned_iff.mp (.plain noSign)).symm

theorem isNumeral_of_numeric (accepted : numeric text separator = true) :
    IsNumeral separator (dropMinus text) := by
  simp only [numeric] at accepted
  split at accepted
  · rename_i uncut
    simp only [Bool.and_eq_true, Bool.not_eq_true', List.isEmpty_eq_false_iff,
      List.all_eq_true] at accepted
    exact .whole accepted.1 accepted.2 (Text.splitOnce_eq_none_iff.mp uncut)
  · rename_i before after cutAt
    obtain ⟨cut, fresh⟩ := Text.splitOnce_eq_some_iff.mp cutAt
    simp only [Bool.and_eq_true, Bool.not_eq_true', List.isEmpty_eq_false_iff,
      List.all_eq_true] at accepted
    obtain ⟨⟨given, first⟩, second⟩ := accepted
    rw [cut]
    exact .fraction first fresh given second

theorem numeric_of_isNumeral (isNumeral : IsNumeral separator (dropMinus text)) :
    numeric text separator = true := by
  simp only [numeric]
  generalize dropMinus text = body at isNumeral
  cases isNumeral with
  | whole given each fresh =>
      rw [Text.splitOnce_eq_none_iff.mpr fresh]
      simpa using ⟨given, each⟩
  | fraction first fresh given second =>
      rw [Text.splitOnce_of_not_mem fresh]
      simpa using ⟨⟨given, first⟩, second⟩

theorem numeric_iff_dropMinus :
    numeric text separator = true ↔ IsNumeral separator (dropMinus text) :=
  ⟨isNumeral_of_numeric, numeric_of_isNumeral⟩

/-- A numeral is accepted, and nothing else, whatever the separator. -/
theorem numeric_iff_isNumeral (text : List Char) (separator : Char) :
    numeric text separator = true ↔ ∃ body, Unsigned text body ∧ IsNumeral separator body := by
  rw [numeric_iff_dropMinus]
  constructor
  · intro isNumeral
    exact ⟨_, unsigned_iff.mpr rfl, isNumeral⟩
  · rintro ⟨body, unsigned, isNumeral⟩
    exact unsigned_iff.mp unsigned ▸ isNumeral

/-- A minus is a sign before it is a separator, and a digit is a separator before it is a
digit. -/
example : numeric ['-', '5'] '-' = true ∧ numeric ['-'] '-' = false ∧
    numeric ['1', '2'] '1' = true ∧ numeric ['2', '1'] '1' = false := by
  decide

variable {part : List Char} {count : Option Nat} {format : DecimalFormat}

theorem digitsOf_iff : digitsOf part count = true ↔ (∀ c ∈ part, isDigit c = true) ∧
    match count with
    | some count => part.length = count
    | none => part ≠ [] := by
  cases count <;> simp [digitsOf]

theorem ne_nil_iff_of_digitsOf (digits : digitsOf part count = true) :
    part ≠ [] ↔ count ≠ some 0 := by
  have counted := (digitsOf_iff.mp digits).2
  cases count with
  | none => simpa using counted
  | some count =>
      simp only at counted
      subst counted
      simp

theorem exists_parts_of_decimal (isDecimal : decimal text format = true) :
    ∃ before after, text = before ++ '.' :: after ∧ '.' ∉ before ∧
      digitsOf before format.wholeDigits = true ∧ digitsOf after format.places = true := by
  rw [decimal] at isDecimal
  split at isDecimal
  · cases isDecimal
  · rename_i before after cutAt
    obtain ⟨cut, fresh⟩ := Text.splitOnce_eq_some_iff.mp cutAt
    exact ⟨before, after, cut, fresh, Bool.and_eq_true_iff.mp isDecimal⟩

theorem dropMinus_of_digits {before after : List Char} (first : ∀ c ∈ before, isDigit c = true) :
    dropMinus (before ++ '.' :: after) = before ++ '.' :: after := by
  apply dropMinus_eq_self
  cases before with
  | nil => simp
  | cons c rest =>
      have digit := first c List.mem_cons_self
      rintro ⟨⟩
      exact absurd digit (by decide)

/-- A decimal is a numeral unless it has to end in its point. -/
theorem numeric_of_decimal_iff (isDecimal : decimal text format = true) :
    numeric text '.' = true ↔ format.places ≠ some 0 := by
  obtain ⟨before, after, rfl, fresh, wholeDigits, places⟩ := exists_parts_of_decimal isDecimal
  have first := (digitsOf_iff.mp wholeDigits).1
  have second := (digitsOf_iff.mp places).1
  rw [← ne_nil_iff_of_digitsOf places]
  simp only [numeric, dropMinus_of_digits first, Text.splitOnce_of_not_mem fresh]
  simp [List.all_eq_true.mpr first, List.all_eq_true.mpr second]

end Rules

theorem SpellsCount.unique {argument : String} {count other : Nat}
    (spells : SpellsCount argument count) (again : SpellsCount argument other) : count = other := by
  have read := readCount?_eq_some_iff.mpr spells
  rw [readCount?_eq_some_iff.mpr again] at read
  exact (Option.some.inj read).symm

theorem SpellFormat.places_ne_zero_iff {arguments : List String} {format : Rules.DecimalFormat}
    (spells : SpellFormat arguments format) : format.places ≠ some 0 ↔
      ∀ last, arguments.getLast? = some last → ¬SpellsCount last 0 := by
  -- What the last argument spells is the number of places, so it spells zero when that is zero.
  have counted {last : String} {places : Nat} (spelled : SpellsCount last places) :
      places ≠ 0 ↔ ¬SpellsCount last 0 := by
    refine not_congr ⟨?_, spelled.unique⟩
    rintro rfl
    exact spelled
  cases spells with
  | free => simp
  | places spelled => simpa using counted spelled
  | digits _ spelled => simpa using counted spelled

namespace Library

/-- Whatever counts a decimal is asked to have, it is a numeral with a point, unless the last
count is zero: then none is. -/
theorem decimals_are_numerals_iff {rule : Rule} (member : rule ∈ rules)
    (named : rule.name = "decimal") {arguments : List String}
    (accepted : rule.contract.accepts arguments = true) {text : List Char}
    (isDecimal : Rules.decimal text (.ofArguments arguments) = true) :
    Rules.numeric text '.' = true ↔
      ∀ last, arguments.getLast? = some last → ¬SpellsCount last 0 := by
  rw [(decimal_rule member named).1] at accepted
  rw [Rules.numeric_of_decimal_iff isDecimal,
    (spellFormat_of_accepts accepted).places_ne_zero_iff]

/-- No digit in front of the point makes a numeral. -/
theorem decimal_of_no_whole_part_is_numeral : ∃ rule ∈ rules, rule.name = "decimal" ∧
    rule.contract.accepts ["0", " +02"] = true ∧
    Rules.decimal ['.', '5', '0'] (.ofArguments ["0", " +02"]) = true ∧
    Rules.numeric ['.', '5', '0'] '.' = true := by
  obtain ⟨rule, member, named⟩ := exists_reader "decimal" (by decide)
  have accepted : rule.contract.accepts ["0", " +02"] = true := by
    rw [(decimal_rule member named).1]
    decide
  have isDecimal : Rules.decimal ['.', '5', '0'] (.ofArguments ["0", " +02"]) = true := by decide
  refine ⟨rule, member, named, accepted, isDecimal, ?_⟩
  rw [decimals_are_numerals_iff member named accepted isDecimal]
  rintro last ⟨⟩
  rw [← readCount?_eq_some_iff]
  decide

/-- No digit behind it does not. -/
theorem decimal_of_no_places_is_no_numeral : ∃ rule ∈ rules, rule.name = "decimal" ∧
    rule.contract.accepts ["0"] = true ∧
    Rules.decimal ['3', '.'] (.ofArguments ["0"]) = true ∧
    Rules.numeric ['3', '.'] '.' = false := by
  obtain ⟨rule, member, named⟩ := exists_reader "decimal" (by decide)
  refine ⟨rule, member, named, ?_, by decide, by decide⟩
  rw [(decimal_rule member named).1]
  decide

end Library

end FieldCheck
