import FieldCheck.Proofs.RuleSpec.Reading

namespace FieldCheck.RuleSpec

/-! Every well-formed spec has a text that is read as it.

`display` puts a backslash only in front of characters that have a meaning of their own, so
the blanks after a comma are open to be taken away. With a backslash in front of every
character each argument is read as it is, whatever it holds. So the well-formed specs are the
ones that are read, all of them.
-/

open Text

variable {spec : RuleSpec} {pieces : List (List Char)} {afterComma : Bool}

def shield (argument : List Char) : List Char :=
  argument.flatMap fun c => ['\\', c]

def shieldArguments (arguments : List String) : List Char :=
  joinWith [','] (arguments.map fun argument => shield argument.toList)

/-- A text that is read as the spec, if any is. -/
def shielded (spec : RuleSpec) : String :=
  if spec.arguments.isEmpty then spec.name
  else String.ofList (spec.name.toList ++ '[' :: (shieldArguments spec.arguments ++ [']']))

/-- A shielded argument is read back whole, blanks after a comma and all. As in
`splitBody_written`, `tail` ends the argument. -/
theorem splitBody_shield {tail : List Char}
    (stop : ∀ afterComma, splitBody afterComma tail = [] :: pieces) (argument : List Char) :
    splitBody afterComma (shield argument ++ tail) = argument :: pieces := by
  induction argument generalizing afterComma with
  | nil => exact stop _
  | cons c rest restIH =>
      have cut : shield (c :: rest) ++ tail = '\\' :: c :: (shield rest ++ tail) := rfl
      rw [cut, splitBody_backslash, restIH]
      rfl

theorem read_shieldArguments {arguments : List String} (some : arguments ≠ []) :
    (splitBody false (shieldArguments arguments)).map String.ofList = arguments := by
  obtain ⟨first, others, rfl⟩ := List.exists_cons_of_ne_nil some
  have whole : splitBody false (shieldArguments (first :: others)) =
      (first :: others).map String.toList :=
    splitBody_joinWith (fun argument => shield argument.toList) (fun _ argument => argument.toList)
      (fun stop _ argument => splitBody_shield stop argument.toList) first others
  have same : String.ofList ∘ String.toList = id := funext fun _ => String.ofList_toList
  rw [whole, List.map_map, same, List.map_id]

/-- A single empty argument would be written as nothing, and is not read from that. -/
theorem shieldArguments_ne_nil {arguments : List String} (some : arguments ≠ [])
    (given : arguments ≠ [""]) : shieldArguments arguments ≠ [] := by
  intro nothing
  have read := read_shieldArguments some
  rw [nothing, splitBody_nil] at read
  exact given read.symm

theorem parse_shielded (wellFormed : spec.WellFormed) : parse spec.shielded = .ok spec := by
  by_cases bare : spec.arguments = []
  · have text : spec.shielded = spec.name := if_pos (by simpa using bare)
    rw [text, parse_bare wellFormed bare]
  · have text : spec.shielded =
        String.ofList (spec.name.toList ++ '[' :: (shieldArguments spec.arguments ++ [']'])) :=
      if_neg (by simpa using bare)
    rw [text, parse_bracketed wellFormed (shieldArguments_ne_nil bare wellFormed.given),
      read_shieldArguments bare]

/-- The specs that are read from some text are the well-formed ones, all of them. -/
theorem exists_parse_iff_wellFormed (spec : RuleSpec) :
    (∃ text, parse text = .ok spec) ↔ spec.WellFormed := by
  constructor
  · rintro ⟨text, read⟩
    exact wellFormed_of_parse read
  · intro wellFormed
    exact ⟨spec.shielded, parse_shielded wellFormed⟩

/-- Blanks, commas, brackets and backslashes in every place. -/
example : shielded ⟨"a]", [" ,", "", "\\]", " "]⟩ = "a][\\ \\,,,\\\\\\],\\ ]" ∧
    parse "a][\\ \\,,,\\\\\\],\\ ]" = .ok ⟨"a]", [" ,", "", "\\]", " "]⟩ := ⟨by decide, by rfl⟩

end FieldCheck.RuleSpec
