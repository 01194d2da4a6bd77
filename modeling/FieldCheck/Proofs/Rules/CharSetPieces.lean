import FieldCheck.Rules.CharSet
import Mathlib.Data.List.Induction

namespace FieldCheck.Rules.CharSet

/-! The pieces that a set of characters is put together from.

The pieces are read as one text. At the end of a text the reader may still wait: for a dash
behind a character, or for a character behind a dash. What it waits for can stand in the next
piece, and then a range is made across the boundary. Where that does not happen, every piece
is read as it would be alone.
-/

/-- What the reader has not settled at the end of a text. -/
def pending : List Char → List Char
  | _ :: '-' :: _ :: rest => pending rest
  | [first, '-'] => [first, '-']
  | [first] => [first]
  | _ :: rest => pending rest
  | [] => []

/-- The ends of the range that the next text makes of what was not settled. -/
def completed : List Char → List Char → Option (Char × Char)
  | [first], '-' :: last :: _ => some (first, last)
  | [first, '-'], last :: _ => some (first, last)
  | _, _ => none

def rangeAcross (before after : List Char) : Option (Char × Char) :=
  completed (pending before) after

def joined (arguments : List String) : List Char := arguments.flatMap String.toList

variable {before after text : List Char}

theorem pending_shape (text : List Char) :
    pending text = [] ∨ (∃ c, pending text = [c]) ∨ ∃ c, pending text = [c, '-'] := by
  fun_induction pending text with
  | case1 first last rest restIH => exact restIH
  | case2 first => exact .inr (.inr ⟨first, rfl⟩)
  | case3 first => exact .inr (.inl ⟨first, rfl⟩)
  | case4 first rest _ _ _ restIH => exact restIH
  | case5 => exact .inl rfl

theorem pending_suffix (text : List Char) : pending text <:+ text := by
  fun_induction pending text with
  | case1 first last rest restIH => exact restIH.trans ⟨[first, '-', last], rfl⟩
  | case2 first => exact List.suffix_rfl
  | case3 first => exact List.suffix_rfl
  | case4 first rest _ _ _ restIH => exact restIH.trans (List.suffix_cons first rest)
  | case5 => exact List.suffix_rfl

theorem rangesOf_of_no_dash {next : Char} (noDash : next ≠ '-') (first : Char)
    (rest : List Char) :
    rangesOf (first :: next :: rest) = (first, first) :: rangesOf (next :: rest) := by
  rw [rangesOf]
  intro last others same
  exact noDash (List.cons.inj same).1

/-- A longer text is read as a shorter one, up to what was not settled at its end. -/
theorem exists_settled (before : List Char) :
    ∃ settled, rangesOf before = settled ++ rangesOf (pending before) ∧
      ∀ after, rangesOf (before ++ after) = settled ++ rangesOf (pending before ++ after) := by
  fun_induction pending before with
  | case1 first last rest restIH =>
      obtain ⟨settled, alone, longer⟩ := restIH
      refine ⟨ordered first last :: settled, ?_, fun after => ?_⟩
      · rw [rangesOf, alone, List.cons_append]
      · rw [List.cons_append, List.cons_append, List.cons_append, rangesOf, longer,
          List.cons_append]
  | case2 first => exact ⟨[], rfl, fun _ => rfl⟩
  | case3 first => exact ⟨[], rfl, fun _ => rfl⟩
  | case4 first rest noRange noDash noEnd restIH =>
      obtain ⟨settled, alone, longer⟩ := restIH
      obtain ⟨next, more, rfl⟩ := List.exists_cons_of_ne_nil noEnd
      have other : next ≠ '-' := by
        rintro rfl
        cases more with
        | nil => exact noDash rfl
        | cons last others => exact noRange last others rfl
      refine ⟨(first, first) :: settled, ?_, fun after => ?_⟩
      · rw [rangesOf_of_no_dash other, alone, List.cons_append]
      · rw [List.cons_append, List.cons_append, rangesOf_of_no_dash other, ← List.cons_append,
          longer, List.cons_append]
  | case5 => exact ⟨[], rfl, fun _ => rfl⟩

theorem rangesOf_pending_append (apart : rangeAcross before after = none) :
    rangesOf (pending before ++ after) = rangesOf (pending before) ++ rangesOf after := by
  rw [rangeAcross] at apart
  rcases pending_shape before with shape | ⟨first, shape⟩ | ⟨first, shape⟩
  · rw [shape]
    rfl
  · rw [shape] at apart ⊢
    match after with
    | [] => rfl
    | [next] => simp [rangesOf]
    | next :: last :: rest =>
        have noDash : next ≠ '-' := by
          rintro rfl
          cases apart
        exact rangesOf_of_no_dash noDash first (last :: rest)
  · rw [shape] at apart ⊢
    cases after with
    | nil => rfl
    | cons last rest => cases apart

theorem rangesOf_append (apart : rangeAcross before after = none) :
    rangesOf (before ++ after) = rangesOf before ++ rangesOf after := by
  -- Both readings begin with what was settled, so only the end of the first text counts.
  obtain ⟨settled, alone, longer⟩ := exists_settled before
  rw [longer, rangesOf_pending_append apart, alone, List.append_assoc]

theorem completed_of_longer {waiting : List Char} (more : List Char)
    (apart : completed waiting (after ++ more) = none) : completed waiting after = none := by
  revert apart
  fun_cases completed waiting after with
  | case1 => nofun
  | case2 => nofun
  | case3 => exact fun _ => rfl

theorem ordered_mem_of_completed {waiting : List Char} {first last : Char}
    (across : completed waiting after = some (first, last)) :
    ordered first last ∈ rangesOf (waiting ++ after) := by
  revert across
  fun_cases completed waiting after with
  | case1 =>
      rintro ⟨⟩
      exact List.mem_cons_self
  | case2 =>
      rintro ⟨⟩
      exact List.mem_cons_self
  | case3 => nofun

theorem rangeAcross_of_no_dash (noDashBefore : before.getLast? ≠ some '-')
    (noDashAfter : after.head? ≠ some '-') : rangeAcross before after = none := by
  have suffix := pending_suffix before
  rw [rangeAcross]
  rcases pending_shape before with shape | ⟨first, shape⟩ | ⟨first, shape⟩ <;> rw [shape]
  · rfl
  · cases after with
    | nil => rfl
    | cons next rest =>
        have other : next ≠ '-' := by simpa using noDashAfter
        simp [completed, other]
  · obtain ⟨start, rfl⟩ := shape ▸ suffix
    simp at noDashBefore

theorem ordered_mem_rangesOf_append {first last : Char}
    (across : rangeAcross before after = some (first, last)) :
    ordered first last ∈ rangesOf (before ++ after) := by
  obtain ⟨settled, -, longer⟩ := exists_settled before
  rw [longer]
  exact List.mem_append_right _ (ordered_mem_of_completed across)

variable {arguments : List String} {c : Char}

theorem contains_ofArguments_iff : (ofArguments arguments).contains c = true ↔
    ∃ range ∈ rangesOf (joined arguments), range.1 ≤ c ∧ c ≤ range.2 := by
  simp [ofArguments, contains, joined]

theorem mem_ordered_iff {first last : Char} :
    (ordered first last).1 ≤ c ∧ c ≤ (ordered first last).2 ↔
      first ≤ c ∧ c ≤ last ∨ last ≤ c ∧ c ≤ first := by
  rw [ordered]
  split
  · rename_i ascending
    refine ⟨.inl, fun between => between.elim id ?_⟩
    rintro ⟨above, below⟩
    exact ⟨Char.le_trans ascending above, Char.le_trans below ascending⟩
  · rename_i descending
    have falling : last ≤ first := (Char.le_total first last).resolve_left descending
    refine ⟨.inr, fun between => between.elim ?_ id⟩
    rintro ⟨above, below⟩
    exact absurd (Char.le_trans above below) descending

/-- No range is made across any boundary between the pieces. -/
def Apart (arguments : List String) : Prop :=
  ∀ before after, arguments = before ++ after →
    rangeAcross (joined before) (joined after) = none

theorem apart_iff_forall_take : Apart arguments ↔ ∀ count ≤ arguments.length,
    rangeAcross (joined (arguments.take count)) (joined (arguments.drop count)) = none := by
  constructor
  · intro apart count _
    exact apart _ _ (List.take_append_drop count arguments).symm
  · rintro each before after rfl
    have across := each before.length (by simp)
    rwa [List.take_left, List.drop_left] at across

instance : Decidable (Apart arguments) := decidable_of_iff' _ apart_iff_forall_take

theorem joined_append (before after : List String) :
    joined (before ++ after) = joined before ++ joined after :=
  List.flatMap_append

theorem Apart.of_longer {before after : List String} (apart : Apart (before ++ after)) :
    Apart before := by
  rintro start rest rfl
  have across := apart start (rest ++ after) (List.append_assoc _ _ _)
  rw [joined_append] at across
  exact completed_of_longer (joined after) across

theorem rangesOf_joined (apart : Apart arguments) :
    rangesOf (joined arguments) = arguments.flatMap fun argument => rangesOf argument.toList := by
  -- From the end, because the boundaries of a list are those of its first pieces and one more.
  induction arguments using List.reverseRecOn with
  | nil => rfl
  | append_singleton before last beforeIH =>
      rw [joined_append, rangesOf_append (apart before [last] rfl), beforeIH apart.of_longer,
        List.flatMap_append]
      simp [joined]

/-- The pieces count one by one, each with the ranges and the dashes that it has alone,
where no range is made across a boundary between them. Where one is made, the set allows all
of it. No range is made across a boundary without a dash on either side. -/
theorem contains_iff_of_apart (arguments : List String) :
    (Apart arguments → ∀ c, (ofArguments arguments).contains c = true ↔
      ∃ argument ∈ arguments, (ofArguments [argument]).contains c = true) ∧
    (∀ before after first last, arguments = before ++ after →
      rangeAcross (joined before) (joined after) = some (first, last) →
      ∀ c, first ≤ c ∧ c ≤ last ∨ last ≤ c ∧ c ≤ first →
        (ofArguments arguments).contains c = true) ∧
    ∀ before after, before.getLast? ≠ some '-' → after.head? ≠ some '-' →
      rangeAcross before after = none := by
  refine ⟨fun apart c => ?_, ?_, fun _ _ => rangeAcross_of_no_dash⟩
  · have alone (argument : String) : joined [argument] = argument.toList := by simp [joined]
    simp only [contains_ofArguments_iff, rangesOf_joined apart, alone, List.mem_flatMap]
    constructor
    · rintro ⟨range, ⟨argument, member, found⟩, within⟩
      exact ⟨argument, member, range, found, within⟩
    · rintro ⟨argument, member, range, found, within⟩
      exact ⟨range, ⟨argument, member, found⟩, within⟩
  · rintro before after first last rfl across c between
    rw [contains_ofArguments_iff, joined_append]
    exact ⟨_, ordered_mem_rangesOf_append across, mem_ordered_iff.mpr between⟩

/-- A dash behind a range is a dash, as a piece of its own and at the start of one. -/
theorem dash_behind_range_is_literal :
    Apart ["a-z", "-", "0-9", "_"] ∧
      ∀ c, (ofArguments ["a-z", "-", "0-9", "_"]).contains c = true ↔
        ∃ argument ∈ ["a-z", "-", "0-9", "_"], (ofArguments [argument]).contains c = true := by
  have apart : Apart ["a-z", "-", "0-9", "_"] := by decide
  exact ⟨apart, (contains_iff_of_apart _).1 apart⟩

/-- A dash as a piece of its own makes a range of the characters around it, which no piece
allows, and a dash at the end of a piece takes the next one's range apart. -/
theorem pieces_make_ranges_across :
    (ofArguments ["a", "-", "z"]).contains 'm' = true ∧
      (¬∃ argument ∈ ["a", "-", "z"], (ofArguments [argument]).contains 'm' = true) ∧
      (ofArguments ["a-", "b-d"]).contains 'c' = false ∧
      (ofArguments ["b-d"]).contains 'c' = true := by
  decide

end FieldCheck.Rules.CharSet
