import FieldCheck.Proofs.Pipeline.TextFilters

namespace FieldCheck

/-! Taking blanks away from texts.

A text is words with blanks around and between them. Trimming it changes what is around the
words, and collapsing it all that is not a word, so whatever is trimmed before or after makes
no difference to what collapsing leaves: the same words with one space between each two.
-/

namespace Text

variable {c : Char} {text rest : List Char} {pieces : List (List Char)}

/-- The words of a text, in order: stretches without a blank that end at a blank or with the
text, and that nothing but blanks comes between. -/
inductive HasWords : List Char → List (List Char) → Prop where
  | none : HasWords [] []
  | gap {c : Char} {rest : List Char} {pieces : List (List Char)} (blank : isBlank c = true)
      (others : HasWords rest pieces) : HasWords (c :: rest) pieces
  | word {word rest : List Char} {pieces : List (List Char)} (isWord : IsWord word)
      (ends : rest = [] ∨ startsBlank rest = true) (others : HasWords rest pieces) :
      HasWords (word ++ rest) (word :: pieces)

theorem words_cons_blank (blank : isBlank c = true) (rest : List Char) :
    words (c :: rest) = words rest :=
  words_append_blank blank [] rest

theorem words_of_hasWords (has : HasWords text pieces) : words text = pieces := by
  induction has with
  | none => rfl
  | gap blank _ othersIH => rw [words_cons_blank blank, othersIH]
  | @word word rest pieces isWord ends _ othersIH =>
      cases rest with
      | nil =>
          have none : [] = pieces := othersIH
          rw [List.append_nil, words_of_isWord isWord, none]
      | cons c rest =>
          have blank : isBlank c = true := by simpa [startsBlank] using ends
          rw [words_append_blank blank, words_of_isWord isWord, ← othersIH, words_cons_blank blank]
          rfl

/-- A character that is no blank begins a word or is put in front of one. -/
theorem HasWords.exists_cons_of_not_blank (solid : isBlank c = false)
    (has : HasWords text pieces) : ∃ others, HasWords (c :: text) others := by
  have alone : IsWord [c] := ⟨List.cons_ne_nil c [], by simpa using solid⟩
  cases has with
  | none => exact ⟨[[c]], .word alone (.inl rfl) .none⟩
  | @gap next rest _ blank others =>
      exact ⟨[c] :: pieces, .word alone (.inr blank) (.gap blank others)⟩
  | @word word rest others isWord ends has =>
      have longer : IsWord (c :: word) :=
        ⟨List.cons_ne_nil c word, List.forall_mem_cons.mpr ⟨solid, isWord.unbroken⟩⟩
      exact ⟨(c :: word) :: others, .word longer ends has⟩

theorem exists_hasWords (text : List Char) : ∃ pieces, HasWords text pieces := by
  induction text with
  | nil => exact ⟨[], .none⟩
  | cons c rest restIH =>
      obtain ⟨pieces, has⟩ := restIH
      cases blank : isBlank c with
      | true => exact ⟨pieces, .gap blank has⟩
      | false => exact has.exists_cons_of_not_blank blank

theorem hasWords_iff : HasWords text pieces ↔ pieces = words text := by
  constructor
  · intro has
    exact (words_of_hasWords has).symm
  · rintro rfl
    obtain ⟨pieces, has⟩ := exists_hasWords text
    rwa [words_of_hasWords has]

theorem words_append_of_blanks {blanks : List Char} (blank : ∀ c ∈ blanks, isBlank c = true)
    (text : List Char) : words (blanks ++ text) = words text := by
  induction blanks with
  | nil => rfl
  | cons c rest restIH =>
      obtain ⟨first, others⟩ := List.forall_mem_cons.mp blank
      rw [List.cons_append, words_cons_blank first, restIH others]

theorem words_of_blanks {blanks : List Char} (blank : ∀ c ∈ blanks, isBlank c = true) :
    words blanks = [] := by
  have noText := words_append_of_blanks blank []
  rwa [List.append_nil] at noText

theorem words_trimStart (text : List Char) : words (trimStart text) = words text := by
  obtain ⟨before, whole, blank⟩ := exists_blanks_before text
  calc words (trimStart text)
      = words (before ++ trimStart text) := (words_append_of_blanks blank _).symm
    _ = words text := by rw [← whole]

theorem words_trimEnd (text : List Char) : words (trimEnd text) = words text := by
  obtain ⟨after, whole, blank⟩ := exists_blanks_after text
  cases after with
  | nil => rw [← List.append_nil (trimEnd text), ← whole]
  | cons c rest =>
      obtain ⟨first, others⟩ := List.forall_mem_cons.mp blank
      calc words (trimEnd text)
          = words (trimEnd text) ++ words rest := by rw [words_of_blanks others, List.append_nil]
        _ = words (trimEnd text ++ c :: rest) := (words_append_blank first _ _).symm
        _ = words text := by rw [← whole]

theorem words_trim (text : List Char) : words (trim text) = words text := by
  rw [trim, words_trimEnd, words_trimStart]

theorem collapse_trimming {step : List Char → List Char} (among : step ∈ trimmings)
    (text : List Char) : collapse (step text) = collapse text := by
  refine collapse_congr ?_
  rcases trimming_cases among with rfl | rfl | rfl | rfl
  · exact words_trim text
  · exact words_trimStart text
  · exact words_trimEnd text
  · exact words_collapse text

theorem trimming_collapse {step : List Char → List Char} (among : step ∈ trimmings)
    (text : List Char) : step (collapse text) = collapse text :=
  trimming_of_collapsed among (collapse_congr (words_collapse text))

theorem eq_space_of_mem_collapse (member : c ∈ collapse text) (blank : isBlank c = true) :
    c = ' ' := by
  rcases mem_joinWith member with space | ⟨word, among, inWord⟩
  · exact space
  · rw [(isWord_of_mem_words among).unbroken c inWord] at blank
    cases blank

end Text

namespace Filters

variable {run : (Value → Value) → Value → Value}

/-- How the filters that take blanks away go together, where `run` makes a filter of a value. -/
structure TrimmingLaws (run : (Value → Value) → Value → Value) : Prop where
  start_after_end : ∀ value, run trimStart (run trimEnd value) = run trim value
  end_after_start : ∀ value, run trimEnd (run trimStart value) = run trim value
  collapse_after : ∀ trimming ∈ trimmings, ∀ value,
    run collapseBlanks (run trimming value) = run collapseBlanks value
  collapse_before : ∀ trimming ∈ trimmings, ∀ value,
    run trimming (run collapseBlanks value) = run collapseBlanks value

theorem collapseBlanks_eq : collapseBlanks = onText Text.collapse := rfl

/-- The laws of values are those of texts, if two filters on texts come to one. -/
theorem trimmingLaws_of_composed
    (composed : ∀ (value : Value) (f g : List Char → List Char),
      run (onText g) (run (onText f) value) = run (onText fun text => g (f text)) value) :
    TrimmingLaws run where
  start_after_end value := by
    have same := funext Text.trimStart_trimEnd
    rw [trimStart, trimEnd, composed, same]
    rfl
  end_after_start value := composed value Text.trimStart Text.trimEnd
  collapse_after trimming among value := by
    obtain ⟨step, stepAmong, rfl⟩ := exists_of_mem_trimmings among
    rw [collapseBlanks_eq, composed, funext (Text.collapse_trimming stepAmong)]
  collapse_before trimming among value := by
    obtain ⟨step, stepAmong, rfl⟩ := exists_of_mem_trimmings among
    rw [collapseBlanks_eq, composed, funext (Text.trimming_collapse stepAmong)]

theorem onText_onText (value : Value) (f g : List Char → List Char) :
    onText g (onText f value) = onText (fun text => g (f text)) value := by
  cases value <;> simp [onText]

/-- The filters that take blanks away keep these laws on every value, whether it is filtered as
a whole or scalar by scalar. Of a text, collapsing leaves the words that it has, the same ones in
the same order, with one space between each two and no other blank. -/
theorem trimmings_leave_words :
    TrimmingLaws (fun filter value => filter value) ∧
    TrimmingLaws (fun filter value => value.mapScalars filter) ∧
    ∀ content : String, ∃ (collapsed : String) (pieces : List (List Char)),
      collapseBlanks (.text content) = .text collapsed ∧
      (∀ others, Text.HasWords content.toList others ↔ others = pieces) ∧
      (∀ others, Text.HasWords collapsed.toList others ↔ others = pieces) ∧
      collapsed.toList = Text.joinWith [' '] pieces ∧
      Text.startsBlank collapsed.toList = false ∧ Text.endsBlank collapsed.toList = false ∧
      ∀ c ∈ collapsed.toList, Text.isBlank c = true → c = ' ' := by
  refine ⟨trimmingLaws_of_composed onText_onText,
    trimmingLaws_of_composed Value.mapScalars_onText_onText, fun content => ?_⟩
  refine ⟨String.ofList (Text.collapse content.toList), Text.words content.toList, rfl,
    fun _ => Text.hasWords_iff, ?_⟩
  rw [String.toList_ofList]
  refine ⟨fun others => ?_, rfl, ?_, ?_, fun c => Text.eq_space_of_mem_collapse⟩
  · rw [Text.hasWords_iff, Text.words_collapse]
  · exact Text.trimStart_eq_self_iff.mp (Text.trimStart_collapse _)
  · exact Text.trimEnd_eq_self_iff.mp (Text.trimEnd_collapse _)

end Filters

end FieldCheck
