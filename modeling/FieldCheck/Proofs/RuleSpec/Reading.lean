import FieldCheck.Proofs.RuleSpec.Arguments
import FieldCheck.RegistrationError

namespace FieldCheck.RuleSpec

open Text

/-- The texts that spell a spec, blanks around them apart. -/
inductive Spells : List Char → RuleSpec → Prop where
  | bare {name : List Char} (named : name ≠ []) (unopened : '[' ∉ name)
      (unclosed : ']' ∉ name) : Spells name ⟨String.ofList name, []⟩
  | bracketed {name body : List Char} (named : trimEnd name ≠ []) (unopened : '[' ∉ name)
      (given : body ≠ []) :
      Spells (name ++ '[' :: (body ++ [']']))
        ⟨String.ofList (trimEnd name), (splitBody false body).map String.ofList⟩

variable {text name body inside : List Char} {spec : RuleSpec}

theorem dropClosing?_eq_some_iff : dropClosing? text = some body ↔ text = body ++ [']'] := by
  constructor
  · intro dropped
    unfold dropClosing? at dropped
    split at dropped
    · rename_i rest reversed
      cases dropped
      rw [← List.reverse_reverse text, reversed, List.reverse_cons]
    · cases dropped
  · rintro rfl
    simp [dropClosing?]

theorem ofTrimmed?_unopened (unopened : '[' ∉ text) :
    ofTrimmed? text =
      if text.isEmpty then .error .emptyName
      else if text.contains ']' then .error .strayBracket
      else .ok ⟨String.ofList text, []⟩ := by
  have noBracket : text.dropWhile (· != '[') = [] := by
    refine List.dropWhile_eq_nil_iff.mpr fun c member => ?_
    simpa using (ne_of_mem_of_not_mem member unopened)
  rw [ofTrimmed?, noBracket]

theorem ofTrimmed?_opened (unopened : '[' ∉ name) (inside : List Char) :
    ofTrimmed? (name ++ '[' :: inside) =
      if (trimEnd name).isEmpty then .error .emptyName
      else
        match dropClosing? inside with
        | none => .error .missingBracket
        | some body =>
            if body.isEmpty then .error .emptyArguments
            else .ok ⟨String.ofList (trimEnd name), (splitBody false body).map String.ofList⟩ := by
  have beforeBracket : ∀ c ∈ name, (c != '[') = true := fun c member => by
    simpa using ne_of_mem_of_not_mem member unopened
  have dropped : (name ++ '[' :: inside).dropWhile (· != '[') = '[' :: inside := by
    rw [List.dropWhile_append_of_pos beforeBracket]
    rfl
  have taken : (name ++ '[' :: inside).takeWhile (· != '[') = name := by
    rw [List.takeWhile_append_of_pos beforeBracket]
    simp
  cases closed : dropClosing? inside with
  | none => simp only [ofTrimmed?, dropped, taken, closed]
  | some body => simp only [ofTrimmed?, dropped, taken, closed]

theorem ofTrimmed?_eq_ok_iff : ofTrimmed? text = .ok spec ↔ Spells text spec := by
  constructor
  · intro read
    by_cases opened : '[' ∈ text
    · obtain ⟨name, inside, rfl, unopened⟩ := List.eq_append_cons_of_mem opened
      rw [ofTrimmed?_opened unopened] at read
      by_cases named : trimEnd name = []
      · simp [named] at read
      · cases closed : dropClosing? inside with
        | none => simp [named, closed] at read
        | some body =>
            by_cases given : body = []
            · simp [named, closed, given] at read
            · simp only [List.isEmpty_iff, named, closed, given, if_false, Except.ok.injEq] at read
              subst read
              rw [dropClosing?_eq_some_iff.mp closed]
              exact .bracketed named unopened given
    · rw [ofTrimmed?_unopened opened] at read
      by_cases named : text = []
      · simp [named] at read
      · by_cases closed : ']' ∈ text
        · simp [named, closed] at read
        · simp only [List.isEmpty_iff, named, List.contains_iff_mem, closed, if_false,
            Except.ok.injEq] at read
          subst read
          exact .bare named opened closed
  · intro spells
    cases spells with
    | bare named unopened unclosed =>
        rw [ofTrimmed?_unopened unopened, if_neg (by simpa using named),
          if_neg (by simpa using unclosed)]
    | bracketed named unopened given =>
        rw [ofTrimmed?_opened unopened, if_neg (by simpa using named),
          dropClosing?_eq_some_iff.mpr rfl]
        exact if_neg (by simpa using given)

theorem parse_eq_ok_iff {text : String} {spec : RuleSpec} :
    parse text = .ok spec ↔ Spells (trim text.toList) spec := by
  rw [← ofTrimmed?_eq_ok_iff, ← parse?, parse]
  cases parse? text <;> simp

/-- What every spec that was read is like. -/
structure WellFormed (spec : RuleSpec) : Prop where
  named : spec.name ≠ ""
  startsSolid : startsBlank spec.name.toList = false
  endsSolid : endsBlank spec.name.toList = false
  unopened : '[' ∉ spec.name.toList
  unclosed : spec.arguments = [] → ']' ∉ spec.name.toList
  given : spec.arguments ≠ [""]

theorem wellFormed_of_spells (spells : Spells text spec)
    (startsSolid : startsBlank text = false) (endsSolid : endsBlank text = false) :
    spec.WellFormed := by
  cases spells with
  | bare named unopened unclosed =>
      exact ⟨by simpa using named, by simpa using startsSolid, by simpa using endsSolid,
        by simpa using unopened, fun _ => by simpa using unclosed, (List.cons_ne_nil _ _).symm⟩
  | @bracketed name body named unopened given =>
      have whole : trimEnd name <+: name ++ '[' :: (body ++ [']']) :=
        (trimEnd_isPrefix name).trans (List.prefix_append _ _)
      refine ⟨?_, ?_, ?_, ?_, ?_, ?_⟩
      · simpa using named
      · rw [String.toList_ofList, startsBlank_of_prefix named whole]
        exact startsSolid
      · rw [String.toList_ofList, ← trimEnd_eq_self_iff, trimEnd_trimEnd]
      · rw [String.toList_ofList]
        exact fun opened => unopened ((trimEnd_isPrefix name).subset opened)
      · intro none
        exact absurd (List.map_eq_nil_iff.mp none) (splitBody_ne_nil false body)
      · intro single
        have pieces : splitBody false body = [[]] :=
          List.map_injective_iff.mpr (fun _ _ => String.ofList_injective) single
        exact splitBody_ne_empty given pieces

theorem wellFormed_of_parse {text : String} (read : parse text = .ok spec) : spec.WellFormed :=
  wellFormed_of_spells (parse_eq_ok_iff.mp read) (trimStart_eq_self_iff.mp (trimStart_trim _))
    (trimEnd_eq_self_iff.mp (trimEnd_trim _))

theorem parse_bare (wellFormed : spec.WellFormed) (bare : spec.arguments = []) :
    parse spec.name = .ok spec := by
  have named : spec.name.toList ≠ [] := by simpa using wellFormed.named
  have trimmed : trim spec.name.toList = spec.name.toList :=
    trim_of_fixed (trimStart_eq_self_iff.mpr wellFormed.startsSolid)
      (trimEnd_eq_self_iff.mpr wellFormed.endsSolid)
  have spells := Spells.bare named wellFormed.unopened (wellFormed.unclosed bare)
  rw [String.ofList_toList, ← bare] at spells
  rw [parse_eq_ok_iff, trimmed]
  exact spells

theorem parse_bracketed (wellFormed : spec.WellFormed) (given : body ≠ []) :
    parse (String.ofList (spec.name.toList ++ '[' :: (body ++ [']']))) =
      .ok ⟨spec.name, (splitBody false body).map String.ofList⟩ := by
  have named : spec.name.toList ≠ [] := by simpa using wellFormed.named
  have nameTrimmed : trimEnd spec.name.toList = spec.name.toList :=
    trimEnd_eq_self_iff.mpr wellFormed.endsSolid
  have trimmed : trim (spec.name.toList ++ '[' :: (body ++ [']'])) =
      spec.name.toList ++ '[' :: (body ++ [']']) := by
    apply trim_of_fixed
    · rw [trimStart_eq_self_iff, ← startsBlank_of_prefix named (List.prefix_append _ _)]
      exact wellFormed.startsSolid
    · rw [← List.cons_append, ← List.append_assoc]
      exact trimEnd_concat_of_not_blank (by decide) _
  have spells := Spells.bracketed (nameTrimmed.symm ▸ named) wellFormed.unopened given
  rw [nameTrimmed, String.ofList_toList] at spells
  rw [parse_eq_ok_iff, String.toList_ofList, trimmed]
  exact spells

end FieldCheck.RuleSpec
