import FieldCheck.Contract
import FieldCheck.Proofs.Text.Numeral
import FieldCheck.Proofs.Text.Whitespace

namespace FieldCheck

namespace Text

variable {text : List Char} {count : Nat}

inductive SpellsNumber : List Char → Nat → Prop
  | plain {digits : List Char} : digits ≠ [] → (∀ c ∈ digits, isDigit c = true) →
      SpellsNumber digits (valueOfDigits digits)
  | signed {digits : List Char} : digits ≠ [] → (∀ c ∈ digits, isDigit c = true) →
      SpellsNumber ('+' :: digits) (valueOfDigits digits)

theorem SpellsNumber.isWord (spells : SpellsNumber text count) : IsWord text := by
  cases spells with
  | plain given digits => exact ⟨given, fun c member => not_isBlank_of_isDigit (digits c member)⟩
  | signed given digits =>
      refine ⟨List.cons_ne_nil _ _, List.forall_mem_cons.mpr ⟨by decide, ?_⟩⟩
      exact fun c member => not_isBlank_of_isDigit (digits c member)

theorem allDigits_iff : allDigits text = true ↔ text ≠ [] ∧ ∀ c ∈ text, isDigit c = true := by
  simp [allDigits]

theorem readWord?_signed {digits : List Char} : readWord? ('+' :: digits) = some count ↔
    (digits ≠ [] ∧ ∀ c ∈ digits, isDigit c = true) ∧
      valueOfDigits digits ≤ maxWord ∧ valueOfDigits digits = count := by
  simp only [readWord?, Option.ite_none_right_eq_some, Option.some.injEq, allDigits_iff]

theorem readWord?_plain (noSign : ∀ digits, text ≠ '+' :: digits) : readWord? text = some count ↔
    (text ≠ [] ∧ ∀ c ∈ text, isDigit c = true) ∧
      valueOfDigits text ≤ maxWord ∧ valueOfDigits text = count := by
  simp only [readWord?, Option.ite_none_right_eq_some, Option.some.injEq, allDigits_iff]

theorem readWord?_eq_some_iff :
    readWord? text = some count ↔ SpellsNumber text count ∧ count ≤ maxWord := by
  constructor
  · intro read
    by_cases signed : ∃ digits, text = '+' :: digits
    · obtain ⟨digits, rfl⟩ := signed
      obtain ⟨⟨given, all⟩, within, rfl⟩ := readWord?_signed.mp read
      exact ⟨.signed given all, within⟩
    · have noSign : ∀ digits, text ≠ '+' :: digits := fun digits same => signed ⟨digits, same⟩
      obtain ⟨⟨given, all⟩, within, rfl⟩ := (readWord?_plain noSign).mp read
      exact ⟨.plain given all, within⟩
  · rintro ⟨spells, within⟩
    cases spells with
    | signed given digits => exact readWord?_signed.mpr ⟨⟨given, digits⟩, within, rfl⟩
    | plain given digits =>
        have noSign : ∀ rest, text ≠ '+' :: rest := by
          rintro rest rfl
          exact absurd (digits '+' List.mem_cons_self) (by decide)
        exact (readWord?_plain noSign).mpr ⟨⟨given, digits⟩, within, rfl⟩

end Text

variable {argument : String} {count : Nat} {flag : Bool}

/-- The number that an argument spells, none beyond `Text.maxWord`. -/
def SpellsCount (argument : String) (count : Nat) : Prop :=
  (∃ number, Text.Padded number argument.toList ∧ Text.SpellsNumber number count) ∧
    count ≤ Text.maxWord

theorem readCount?_eq_some_iff : readCount? argument = some count ↔ SpellsCount argument count := by
  rw [readCount?, Text.readWord?_eq_some_iff]
  constructor
  · rintro ⟨spells, within⟩
    exact ⟨⟨_, Text.padded_trim argument.toList, spells⟩, within⟩
  · rintro ⟨⟨number, padded, spells⟩, within⟩
    rw [Text.trim_of_padded spells.isWord padded]
    exact ⟨spells, within⟩

example : readCount? " +007\t" = some 7 := by decide

def flagWords : Bool → List String
  | true => ["true", "1", "yes", "on"]
  | false => ["false", "0", "no", "off"]

def SpellsFlag (argument : String) (flag : Bool) : Prop :=
  ∃ word, Text.Padded word argument.toList ∧
    String.ofList (word.map Text.asciiLower) ∈ flagWords flag

theorem asciiLower_of_blank {c : Char} (blank : Text.isBlank c = true) :
    Text.asciiLower c = c := by
  refine if_neg fun upper => ?_
  obtain ⟨least, most⟩ : 65 ≤ c.toNat ∧ c.toNat ≤ 90 := upper
  simp [Text.isBlank] at blank
  omega

theorem isWord_of_mem_flagWords {word : List Char}
    (member : String.ofList (word.map Text.asciiLower) ∈ flagWords flag) : Text.IsWord word := by
  have solid : ∀ known ∈ flagWords flag,
      known.toList ≠ [] ∧ ∀ c ∈ known.toList, Text.isBlank c = false := by
    cases flag <;> simp [flagWords, Text.isBlank]
  -- A blank has no other case, so it would stand in the known word too.
  obtain ⟨given, unbroken⟩ := solid _ member
  rw [String.toList_ofList] at given unbroken
  refine ⟨?_, fun c inWord => ?_⟩
  · rintro rfl
    exact given rfl
  · cases blank : Text.isBlank c with
    | false => rfl
    | true =>
        have lower := unbroken _ (List.mem_map_of_mem inWord)
        rw [asciiLower_of_blank blank, blank] at lower
        exact lower

theorem readFlag?_eq_some_iff : readFlag? argument = some flag ↔ SpellsFlag argument flag := by
  have reads : readFlag? argument = some flag ↔
      String.ofList ((Text.trim argument.toList).map Text.asciiLower) ∈ flagWords flag := by
    unfold readFlag?
    split <;> cases flag <;> simp_all [flagWords]
  rw [reads]
  constructor
  · intro member
    exact ⟨_, Text.padded_trim argument.toList, member⟩
  · rintro ⟨word, padded, member⟩
    rwa [Text.trim_of_padded (isWord_of_mem_flagWords member) padded]

end FieldCheck
