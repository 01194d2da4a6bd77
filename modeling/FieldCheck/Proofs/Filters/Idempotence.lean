import FieldCheck.Proofs.Pipeline.TextFilters
import FieldCheck.Proofs.Text.CaseMapping

namespace FieldCheck

namespace Library

variable {step : List Char → List Char} {filter : Filter}

theorem textChange_textChange (among : step ∈ textChanges) (text : List Char) :
    step (step text) = step text := by
  simp only [textChanges, List.mem_cons, List.not_mem_nil, or_false] at among
  rcases among with rfl | rfl | rfl | rfl | rfl | rfl | rfl
  · exact Text.trimming_trimming (by simp [Text.trimmings]) text
  · exact Text.trimStart_trimStart text
  · exact Text.trimEnd_trimEnd text
  · exact Text.lowerCase_lowerCase text
  · exact Text.upperCase_upperCase text
  · exact Text.capitalize_capitalize text
  · exact Text.collapse_congr (Text.words_collapse text)

/-- A filter of the library changes a value of any kind at most once, and a scalar that is no
text not at all. -/
theorem filters_settle_at_once (listed : filter ∈ filters) (value : Value) :
    (value.mapScalars filter.apply).mapScalars filter.apply = value.mapScalars filter.apply ∧
      (value.text? = none → filter.apply value = value) := by
  obtain ⟨step, among, applied⟩ := exists_textChange listed
  have settled : (fun text => step (step text)) = step :=
    funext (textChange_textChange among)
  rw [applied]
  constructor
  · rw [value.mapScalars_onText_onText, settled]
  · intro noText
    cases value with
    | text content => cases noText
    | _ => rfl

/-- The last sigma of a word has a form of its own in lower case, and is not changed again. -/
theorem final_sigma_settles_at_once :
    ∃ filter ∈ filters,
      filter.name = "lowercase" ∧
      let words : Value := .list [.text "ΟΔΟΣ ΣΟΣ", .bool true]
      let lower : Value := .list [.text "οδος σος", .bool true]
      words.mapScalars filter.apply = lower ∧ lower.mapScalars filter.apply = lower ∧
        filter.apply (.bool true) = .bool true := by
  have listed : (⟨"lowercase", .library, Filters.lowerCase⟩ : Filter) ∈ filters := by
    simp [filters]
  have lowered : Value.mapScalars Filters.lowerCase (.list [.text "ΟΔΟΣ ΣΟΣ", .bool true]) =
      .list [.text "οδος σος", .bool true] := by
    rfl
  have twice := (filters_settle_at_once listed (.list [.text "ΟΔΟΣ ΣΟΣ", .bool true])).1
  refine ⟨_, listed, rfl, lowered, ?_, (filters_settle_at_once listed (.bool true)).2 rfl⟩
  rwa [lowered] at twice

end Library

end FieldCheck
