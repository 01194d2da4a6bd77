import FieldCheck.Proofs.Text.Separators
import FieldCheck.Text.Blank
import Mathlib.Data.List.DropRight

namespace FieldCheck.Text

/-! Words and the blanks around them.

A blank cuts a text in two, and the words of the text are those of the two parts. Words
joined by single spaces are therefore found again, and there is nothing around them to take
away. The two ends of a text are trimmed independently. So whichever of the trimmings are
made of a text, in whatever order and however often, none of them changes the result any
more.
-/

variable {c : Char} {text word : List Char} {pieces : List (List Char)}

theorem words_append_blank (blank : isBlank c = true) (before after : List Char) :
    words (before ++ c :: after) = words before ++ words after := by
  rw [words, splitWhere_append_cons blank, List.filter_append]
  rfl

/-- A text that is not empty and holds no blank. -/
structure IsWord (text : List Char) : Prop where
  nonempty : text ≠ []
  unbroken : ∀ c ∈ text, isBlank c = false

theorem isWord_of_mem_words (member : word ∈ words text) : IsWord word := by
  obtain ⟨piece, nonempty⟩ := List.mem_filter.mp member
  exact ⟨by simpa using nonempty, uncut_of_mem_splitWhere piece⟩

theorem words_of_isWord (isWord : IsWord word) : words word = [word] := by
  rw [words, splitWhere_of_uncut isWord.unbroken, List.filter_cons, if_pos]
  · rfl
  · simpa using isWord.nonempty

theorem words_joinWith (isWord : ∀ piece ∈ pieces, IsWord piece) :
    words (joinWith [' '] pieces) = pieces := by
  induction pieces with
  | nil => rfl
  | cons piece rest restIH =>
      obtain ⟨first, others⟩ := List.forall_mem_cons.mp isWord
      cases rest with
      | nil => simpa [joinWith] using words_of_isWord first
      | cons next more =>
          rw [joinWith_cons_cons, List.singleton_append, words_append_blank (by decide),
            words_of_isWord first, restIH others]
          rfl

theorem trimStart_trimStart (text : List Char) : trimStart (trimStart text) = trimStart text :=
  List.dropWhile_idempotent _ text

theorem trimEnd_trimEnd (text : List Char) : trimEnd (trimEnd text) = trimEnd text :=
  List.rdropWhile_idempotent _ _

theorem trimStart_cons_blank (blank : isBlank c = true) (text : List Char) :
    trimStart (c :: text) = trimStart text :=
  List.dropWhile_cons_of_pos blank

theorem trimStart_cons_of_not_blank (solid : isBlank c = false) (text : List Char) :
    trimStart (c :: text) = c :: text :=
  List.dropWhile_cons_of_neg (by simp [solid])

theorem trimEnd_concat_blank (blank : isBlank c = true) (text : List Char) :
    trimEnd (text ++ [c]) = trimEnd text :=
  List.rdropWhile_concat_pos _ _ _ blank

theorem trimEnd_concat_of_not_blank (solid : isBlank c = false) (text : List Char) :
    trimEnd (text ++ [c]) = text ++ [c] :=
  List.rdropWhile_concat_neg _ _ _ (by simp [solid])

def startsBlank (text : List Char) : Bool := text.head?.any isBlank

def endsBlank (text : List Char) : Bool := text.getLast?.any isBlank

theorem trimStart_eq_self_iff : trimStart text = text ↔ startsBlank text = false := by
  cases text with
  | nil => simp [trimStart, startsBlank]
  | cons c rest =>
      refine List.dropWhile_eq_self_iff.trans ?_
      simp [startsBlank]

theorem trimEnd_eq_self_iff : trimEnd text = text ↔ endsBlank text = false := by
  refine List.rdropWhile_eq_self_iff.trans ?_
  cases text with
  | nil => simp [endsBlank]
  | cons c rest => simp [endsBlank, List.getLast?_eq_some_getLast]

theorem startsBlank_of_prefix {start : List Char} (nonempty : start ≠ [])
    (isPrefix : start <+: text) : startsBlank start = startsBlank text := by
  obtain ⟨c, rest, rfl⟩ := List.exists_cons_of_ne_nil nonempty
  obtain ⟨finish, rfl⟩ := isPrefix
  rfl

theorem trimEnd_isPrefix (text : List Char) : trimEnd text <+: text :=
  List.rdropWhile_prefix _ _

theorem trimStart_concat (text : List Char) (c : Char) : trimStart (text ++ [c]) =
    if trimStart text = [] then trimStart [c] else trimStart text ++ [c] := by
  induction text with
  | nil => rfl
  | cons head rest restIH =>
      cases solid : isBlank head with
      | true => rw [List.cons_append, trimStart_cons_blank solid, trimStart_cons_blank solid, restIH]
      | false =>
          rw [List.cons_append, trimStart_cons_of_not_blank solid,
            trimStart_cons_of_not_blank solid, if_neg (List.cons_ne_nil head rest)]
          rfl

theorem trimStart_trimEnd (text : List Char) :
    trimStart (trimEnd text) = trimEnd (trimStart text) := by
  induction text using List.reverseRecOn with
  | nil => rfl
  | append_singleton text c textIH =>
      cases solid : isBlank c with
      | true =>
          rw [trimEnd_concat_blank solid, textIH, trimStart_concat]
          split
          · rename_i allBlank
            rw [allBlank, trimStart_cons_blank solid]
            rfl
          · rw [trimEnd_concat_blank solid]
      | false =>
          rw [trimEnd_concat_of_not_blank solid, trimStart_concat]
          split
          · rw [trimStart_cons_of_not_blank solid]
            exact (trimEnd_concat_of_not_blank solid []).symm
          · rw [trimEnd_concat_of_not_blank solid]

theorem trimStart_trim (text : List Char) : trimStart (trim text) = trim text := by
  rw [trim, trimStart_trimEnd, trimStart_trimStart]

theorem trimEnd_trim (text : List Char) : trimEnd (trim text) = trim text :=
  trimEnd_trimEnd (trimStart text)

theorem trim_of_fixed (start : trimStart text = text) (finish : trimEnd text = text) :
    trim text = text := by
  rw [trim, start, finish]

theorem trimEnd_of_isWord (isWord : IsWord word) : trimEnd word = word :=
  List.rdropWhile_eq_self_iff.mpr fun nonempty => by
    simp [isWord.unbroken _ (List.getLast_mem nonempty)]

/-- Nothing but blanks stands on either side of the middle. -/
def Padded (middle text : List Char) : Prop :=
  ∃ before after, text = before ++ (middle ++ after) ∧
    (∀ c ∈ before, isBlank c = true) ∧ ∀ c ∈ after, isBlank c = true

theorem exists_blanks_before (text : List Char) :
    ∃ before, text = before ++ trimStart text ∧ ∀ c ∈ before, isBlank c = true :=
  ⟨_, List.takeWhile_append_dropWhile.symm, fun _ member => List.mem_takeWhile_imp member⟩

theorem exists_blanks_after (text : List Char) :
    ∃ after, text = trimEnd text ++ after ∧ ∀ c ∈ after, isBlank c = true := by
  obtain ⟨blanks, whole, blank⟩ := exists_blanks_before text.reverse
  refine ⟨blanks.reverse, ?_, fun c member => blank c (List.mem_reverse.mp member)⟩
  simpa [trimStart, trimEnd] using congrArg List.reverse whole

theorem padded_trim (text : List Char) : Padded (trim text) text := by
  obtain ⟨before, whole, blankBefore⟩ := exists_blanks_before text
  obtain ⟨after, rest, blankAfter⟩ := exists_blanks_after (trimStart text)
  exact ⟨before, after, by rw [trim, ← rest, ← whole], blankBefore, blankAfter⟩

theorem trim_of_padded (isWord : IsWord word) (padded : Padded word text) : trim text = word := by
  obtain ⟨before, after, rfl, blankBefore, blankAfter⟩ := padded
  obtain ⟨c, rest, rfl⟩ := List.exists_cons_of_ne_nil isWord.nonempty
  have solid : isBlank c = false := isWord.unbroken c List.mem_cons_self
  calc trim (before ++ (c :: rest ++ after))
      = trimEnd (trimStart (c :: rest ++ after)) :=
        congrArg trimEnd (List.dropWhile_append_of_pos blankBefore)
    _ = trimEnd (c :: rest ++ after) :=
        congrArg trimEnd (trimStart_cons_of_not_blank solid (rest ++ after))
    _ = trimEnd (c :: rest) := by
        rw [trimEnd, List.reverse_append, List.dropWhile_append_of_pos, trimEnd]
        exact fun c member => blankAfter c (List.mem_reverse.mp member)
    _ = c :: rest := trimEnd_of_isWord isWord

def collapse (text : List Char) : List Char :=
  joinWith [' '] (words text)

theorem words_collapse (text : List Char) : words (collapse text) = words text :=
  words_joinWith fun _ member => isWord_of_mem_words member

theorem collapse_congr {left right : List Char} (sameWords : words left = words right) :
    collapse left = collapse right := by
  rw [collapse, collapse, sameWords]

theorem trimStart_joinWith (isWord : ∀ piece ∈ pieces, IsWord piece) :
    trimStart (joinWith [' '] pieces) = joinWith [' '] pieces := by
  cases pieces with
  | nil => rfl
  | cons piece rest =>
      obtain ⟨nonempty, unbroken⟩ := isWord piece List.mem_cons_self
      obtain ⟨c, tail, rfl⟩ := List.exists_cons_of_ne_nil nonempty
      have solid : isBlank c = false := unbroken c List.mem_cons_self
      cases rest with
      | nil => simpa [joinWith] using trimStart_cons_of_not_blank solid tail
      | cons next more =>
          rw [joinWith_cons_cons, List.cons_append, trimStart_cons_of_not_blank solid]

theorem trimEnd_append {after : List Char} (nonempty : after ≠ [])
    (trimmed : trimEnd after = after) (before : List Char) :
    trimEnd (before ++ after) = before ++ after := by
  have lastSolid : ¬isBlank (after.getLast nonempty) = true :=
    List.rdropWhile_eq_self_iff.mp trimmed nonempty
  refine List.rdropWhile_eq_self_iff.mpr fun _ => ?_
  rw [List.getLast_append_of_ne_nil _ nonempty]
  exact lastSolid

theorem joinWith_ne_nil {piece : List Char} (nonempty : piece ≠ []) (rest : List (List Char)) :
    joinWith [' '] (piece :: rest) ≠ [] := by
  cases rest with
  | nil => simpa [joinWith] using nonempty
  | cons next more => simp [joinWith_cons_cons, nonempty]

theorem trimEnd_joinWith (isWord : ∀ piece ∈ pieces, IsWord piece) :
    trimEnd (joinWith [' '] pieces) = joinWith [' '] pieces := by
  induction pieces with
  | nil => rfl
  | cons piece rest restIH =>
      obtain ⟨first, others⟩ := List.forall_mem_cons.mp isWord
      cases rest with
      | nil => simpa [joinWith] using trimEnd_of_isWord first
      | cons next more =>
          have later := joinWith_ne_nil (others next List.mem_cons_self).nonempty more
          rw [joinWith_cons_cons, ← List.append_assoc]
          exact trimEnd_append later (restIH others) _

theorem trimStart_collapse (text : List Char) : trimStart (collapse text) = collapse text :=
  trimStart_joinWith fun _ member => isWord_of_mem_words member

theorem trimEnd_collapse (text : List Char) : trimEnd (collapse text) = collapse text :=
  trimEnd_joinWith fun _ member => isWord_of_mem_words member

def trimmings : List (List Char → List Char) := [trim, trimStart, trimEnd, collapse]

variable {step other : List Char → List Char}

theorem trimming_cases (among : step ∈ trimmings) :
    step = trim ∨ step = trimStart ∨ step = trimEnd ∨ step = collapse := by
  simpa only [trimmings, List.mem_cons, List.not_mem_nil, or_false] using among

theorem trimStart_trimming (among : step ∈ trimmings) (fixed : trimStart text = text) :
    trimStart (step text) = step text := by
  rcases trimming_cases among with rfl | rfl | rfl | rfl
  · exact trimStart_trim text
  · exact trimStart_trimStart text
  · rw [trimStart_trimEnd, fixed]
  · exact trimStart_collapse text

theorem trimEnd_trimming (among : step ∈ trimmings) (fixed : trimEnd text = text) :
    trimEnd (step text) = step text := by
  rcases trimming_cases among with rfl | rfl | rfl | rfl
  · exact trimEnd_trim text
  · rw [← trimStart_trimEnd, fixed]
  · exact trimEnd_trimEnd text
  · exact trimEnd_collapse text

theorem trimming_of_collapsed (among : step ∈ trimmings) (fixed : collapse text = text) :
    step text = text := by
  have start : trimStart text = text := by rw [← fixed, trimStart_collapse]
  have finish : trimEnd text = text := by rw [← fixed, trimEnd_collapse]
  rcases trimming_cases among with rfl | rfl | rfl | rfl
  · exact trim_of_fixed start finish
  · exact start
  · exact finish
  · exact fixed

theorem trimming_trimming (among : step ∈ trimmings) (text : List Char) :
    step (step text) = step text := by
  rcases trimming_cases among with rfl | rfl | rfl | rfl
  · exact trim_of_fixed (trimStart_trim text) (trimEnd_trim text)
  · exact trimStart_trimStart text
  · exact trimEnd_trimEnd text
  · exact collapse_congr (words_collapse text)

/-- A trimming does not undo what another one has done. -/
theorem trimming_keeps_fixed (stepAmong : step ∈ trimmings) (otherAmong : other ∈ trimmings)
    (fixed : other text = text) : other (step text) = step text := by
  rcases trimming_cases otherAmong with rfl | rfl | rfl | rfl
  · -- `trim` leaves alone what has no blank at either end, and no step puts one there.
    have start : trimStart text = text := by rw [← fixed, trimStart_trim]
    have finish : trimEnd text = text := by rw [← fixed, trimEnd_trim]
    exact trim_of_fixed (trimStart_trimming stepAmong start) (trimEnd_trimming stepAmong finish)
  · exact trimStart_trimming stepAmong fixed
  · exact trimEnd_trimming stepAmong fixed
  · rw [trimming_of_collapsed stepAmong fixed, fixed]

def applyAll (steps : List (List Char → List Char)) (text : List Char) : List Char :=
  steps.foldl (fun text step => step text) text

variable {steps : List (List Char → List Char)}

theorem applyAll_cons (step : List Char → List Char) (rest : List (List Char → List Char))
    (text : List Char) : applyAll (step :: rest) text = applyAll rest (step text) := rfl

theorem applyAll_keeps_fixed (among : ∀ step ∈ steps, step ∈ trimmings)
    (otherAmong : other ∈ trimmings) (fixed : other text = text) :
    other (applyAll steps text) = applyAll steps text := by
  induction steps generalizing text with
  | nil => exact fixed
  | cons step rest restIH =>
      obtain ⟨first, later⟩ := List.forall_mem_cons.mp among
      exact restIH later (trimming_keeps_fixed first otherAmong fixed)

/-- Each of a series of trimmings leaves the result of the series alone. -/
theorem step_applyAll (among : ∀ step ∈ steps, step ∈ trimmings) (member : step ∈ steps) :
    step (applyAll steps text) = applyAll steps text := by
  induction steps generalizing text with
  | nil => cases member
  | cons head rest restIH =>
      obtain ⟨first, later⟩ := List.forall_mem_cons.mp among
      rw [applyAll_cons]
      rcases List.mem_cons.mp member with rfl | inRest
      · exact applyAll_keeps_fixed later first (trimming_trimming first text)
      · exact restIH later inRest

theorem applyAll_of_fixed (fixed : ∀ step ∈ steps, step text = text) :
    applyAll steps text = text := by
  induction steps with
  | nil => rfl
  | cons step rest restIH =>
      obtain ⟨first, later⟩ := List.forall_mem_cons.mp fixed
      rw [applyAll_cons, first, restIH later]

/-- However trimmings are composed, a second round of them changes nothing. -/
theorem applyAll_trimmings_applyAll (among : ∀ step ∈ steps, step ∈ trimmings)
    (text : List Char) : applyAll steps (applyAll steps text) = applyAll steps text :=
  applyAll_of_fixed fun _ member => step_applyAll among member

end FieldCheck.Text
