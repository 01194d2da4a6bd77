import FieldCheck.Proofs.RuleSpec.Reading

namespace FieldCheck.RuleSpec

open Text

variable {spec : RuleSpec}

/-- What becomes of arguments that are written out and read back. -/
def readBack : List String → List String
  | [] => []
  | first :: others => first :: others.map fun argument => String.ofList (trimStart argument.toList)

theorem readBack_eq_self_iff {arguments : List String} : readBack arguments = arguments ↔
    ∀ argument ∈ arguments.tail, startsBlank argument.toList = false := by
  have kept (argument : String) : String.ofList (trimStart argument.toList) = argument ↔
      startsBlank argument.toList = false := by
    rw [← trimStart_eq_self_iff, ← String.toList_inj, String.toList_ofList]
  cases arguments with
  | nil => simp [readBack]
  | cons first others =>
      have each : (others.map fun argument => String.ofList (trimStart argument.toList)) =
          others.map id ↔ ∀ argument ∈ others, startsBlank argument.toList = false := by
        rw [List.map_inj_left]
        exact forall₂_congr fun argument _ => kept argument
      simpa [readBack] using each

theorem write_bare (bare : spec.arguments = []) : spec.write = spec.name.toList :=
  if_pos (by simpa using bare)

theorem write_bracketed (some : spec.arguments ≠ []) :
    spec.write = spec.name.toList ++ '[' :: writeArguments spec.arguments ++ [']'] :=
  if_neg (by simpa using some)

theorem splitBody_writeArguments_eq_readBack {arguments : List String} (some : arguments ≠ []) :
    (splitBody false (writeArguments arguments)).map String.ofList = readBack arguments := by
  obtain ⟨first, others, rfl⟩ := List.exists_cons_of_ne_nil some
  rw [splitBody_writeArguments, if_neg Bool.false_ne_true, List.map_cons, List.map_map, readBack]
  exact congrArg (· :: _) String.ofList_toList

/-- Only one empty argument is written as nothing. -/
theorem writeArguments_ne_nil {arguments : List String} (some : arguments ≠ [])
    (given : arguments ≠ [""]) : writeArguments arguments ≠ [] := by
  intro nothing
  have empty := splitBody_writeArguments_eq_readBack some
  rw [nothing, splitBody_nil] at empty
  obtain ⟨first, others, rfl⟩ := List.exists_cons_of_ne_nil some
  obtain ⟨emptyFirst, noOthers⟩ := List.cons.inj empty
  rw [List.map_nil, eq_comm, List.map_eq_nil_iff] at noOthers
  exact given (by rw [← emptyFirst, noOthers])

theorem parse_display (wellFormed : spec.WellFormed) :
    parse spec.display = .ok ⟨spec.name, readBack spec.arguments⟩ := by
  by_cases bare : spec.arguments = []
  · have back : readBack spec.arguments = spec.arguments := by
      rw [bare]
      rfl
    rw [display, write_bare bare, String.ofList_toList, parse_bare wellFormed bare, back]
  · rw [display, write_bracketed bare, List.append_assoc, List.cons_append,
      parse_bracketed wellFormed (writeArguments_ne_nil bare wellFormed.given),
      splitBody_writeArguments_eq_readBack bare]

theorem parse_display_eq_self_iff (wellFormed : spec.WellFormed) :
    parse spec.display = .ok spec ↔
      ∀ argument ∈ spec.arguments.tail, startsBlank argument.toList = false := by
  rw [parse_display wellFormed, ← readBack_eq_self_iff, Except.ok.injEq]
  constructor
  · intro same
    exact congrArg RuleSpec.arguments same
  · intro same
    rw [same]

/-- A spec that was read can always be written out and read back, with the same name and as
many arguments. The spec that comes back is the same unless an argument after the first one
starts with a blank: a blank that was read there because it had a backslash before it is
written without one, and is taken away. -/
theorem parse_display_of_parse {text : String} (read : parse text = .ok spec) :
    parse spec.display = .ok ⟨spec.name, readBack spec.arguments⟩ ∧
      (parse spec.display = .ok spec ↔
        ∀ argument ∈ spec.arguments.tail, startsBlank argument.toList = false) := by
  have wellFormed := wellFormed_of_parse read
  exact ⟨parse_display wellFormed, parse_display_eq_self_iff wellFormed⟩

/-- Commas and brackets come back, and a blank before them, but not the last one. -/
theorem parse_display_of_character_set :
    let spec : RuleSpec := ⟨"chars", [" a,b", "]", " c"]⟩
    parse " chars [ a\\,b, \\],\\ c]" = .ok spec ∧
      spec.display = "chars[ a\\,b,\\], c]" ∧
      parse spec.display = .ok ⟨"chars", [" a,b", "]", "c"]⟩ ∧
      (parse spec.display = .ok spec ↔
        ∀ argument ∈ spec.arguments.tail, startsBlank argument.toList = false) := by
  intro spec
  have read : parse " chars [ a\\,b, \\],\\ c]" = .ok spec := by rfl
  obtain ⟨back, same⟩ := parse_display_of_parse read
  exact ⟨read, by decide, back, same⟩

/-- Not every spec that was read comes back as it was. -/
theorem escaped_blank_lost :
    parse "x[a,\\ b]" = .ok ⟨"x", ["a", " b"]⟩ ∧
      display ⟨"x", ["a", " b"]⟩ = "x[a, b]" ∧
      parse "x[a, b]" = .ok ⟨"x", ["a", "b"]⟩ ∧
      ¬∀ (text : String) (spec : RuleSpec), parse text = .ok spec →
        parse spec.display = .ok spec := by
  have read : parse "x[a,\\ b]" = .ok ⟨"x", ["a", " b"]⟩ := by rfl
  have again : parse (display ⟨"x", ["a", " b"]⟩) = .ok ⟨"x", ["a", "b"]⟩ := by rfl
  refine ⟨read, by decide, again, fun lossless => ?_⟩
  have same := again.symm.trans (lossless _ _ read)
  exact absurd same (by simp)

/-- Writing a spec out and reading it back gives the same spec just when the spec is
well-formed and no argument after the first one starts with a blank. -/
theorem display_read_back_iff (spec : RuleSpec) :
    parse spec.display = .ok spec ↔
      spec.WellFormed ∧ ∀ argument ∈ spec.arguments.tail, startsBlank argument.toList = false := by
  constructor
  · intro same
    have wellFormed := wellFormed_of_parse same
    exact ⟨wellFormed, (parse_display_eq_self_iff wellFormed).mp same⟩
  · rintro ⟨wellFormed, solid⟩
    exact (parse_display_eq_self_iff wellFormed).mpr solid

end FieldCheck.RuleSpec
