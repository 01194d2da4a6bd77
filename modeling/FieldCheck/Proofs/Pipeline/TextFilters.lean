import FieldCheck.Library
import FieldCheck.Proofs.Pipeline.RecordOfRun
import FieldCheck.Proofs.Text.Whitespace

namespace FieldCheck

namespace Value

variable (value : Value) (f g : List Char → List Char)

theorem mapScalars_onText_of_id (same : ∀ text, f text = text) :
    value.mapScalars (Filters.onText f) = value := by
  have keeps (scalar : Value) : Filters.onText f scalar = scalar := by
    cases scalar <;> simp [Filters.onText, same]
  cases value with
  | list items =>
      rw [mapScalars, List.map_congr_left fun item _ => keeps item, List.map_id']
  | _ => simp only [mapScalars, keeps]

theorem mapScalars_onText_onText :
    (value.mapScalars (Filters.onText f)).mapScalars (Filters.onText g) =
      value.mapScalars (Filters.onText fun text => g (f text)) := by
  have composed (scalar : Value) : Filters.onText g (Filters.onText f scalar) =
      Filters.onText (fun text => g (f text)) scalar := by
    cases scalar <;> simp [Filters.onText]
  cases value with
  | list items =>
      rw [mapScalars, mapScalars, mapScalars, List.map_map]
      exact congrArg Value.list (List.map_congr_left fun item _ => composed item)
  | text => simp only [mapScalars, Filters.onText, String.toList_ofList]
  | _ => rfl

theorem mapScalars_onText_eq_null :
    value.mapScalars (Filters.onText f) = .null ↔ value = .null := by
  cases value <;> simp [mapScalars, Filters.onText]

end Value

theorem Filter.applyAll_onText {allowed : (List Char → List Char) → Prop}
    {filters : List Filter}
    (onTexts : ∀ filter ∈ filters, ∃ step, allowed step ∧ filter.apply = Filters.onText step) :
    ∃ steps, (∀ step ∈ steps, allowed step) ∧ ∀ value,
      applyAll filters value = value.mapScalars (Filters.onText (Text.applyAll steps)) := by
  induction filters with
  | nil =>
      refine ⟨[], by simp, fun value => ?_⟩
      exact (value.mapScalars_onText_of_id _ fun _ => rfl).symm
  | cons filter rest restIH =>
      obtain ⟨first, others⟩ := List.forall_mem_cons.mp onTexts
      obtain ⟨step, stepAllowed, applied⟩ := first
      obtain ⟨steps, stepsAllowed, series⟩ := restIH others
      refine ⟨step :: steps, List.forall_mem_cons.mpr ⟨stepAllowed, stepsAllowed⟩, fun value => ?_⟩
      calc applyAll (filter :: rest) value
          = applyAll rest (value.mapScalars filter.apply) := rfl
        _ = (value.mapScalars (Filters.onText step)).mapScalars
              (Filters.onText (Text.applyAll steps)) := by rw [applied, series]
        _ = value.mapScalars (Filters.onText (Text.applyAll (step :: steps))) :=
            value.mapScalars_onText_onText _ _

def Filters.trimmings : List (Value → Value) :=
  [trim, trimStart, trimEnd, collapseBlanks]

theorem Filters.exists_of_mem_trimmings {apply : Value → Value}
    (member : apply ∈ trimmings) : ∃ step, step ∈ Text.trimmings ∧ apply = onText step := by
  have mapped : trimmings = Text.trimmings.map onText := rfl
  rw [mapped] at member
  obtain ⟨step, among, rfl⟩ := List.mem_map.mp member
  exact ⟨step, among, rfl⟩

/-- What the filters of the library do to a text. -/
def Library.textChanges : List (List Char → List Char) :=
  [Text.trim, Text.trimStart, Text.trimEnd, Text.lowerCase, Text.upperCase, Text.capitalize,
    Text.collapse]

theorem Library.exists_textChange {filter : Filter} (listed : filter ∈ filters) :
    ∃ step ∈ textChanges, filter.apply = Filters.onText step := by
  have mapped : filters.map Filter.apply = textChanges.map Filters.onText := rfl
  have applied : filter.apply ∈ filters.map Filter.apply := List.mem_map.mpr ⟨filter, listed, rfl⟩
  rw [mapped] at applied
  obtain ⟨step, among, same⟩ := List.mem_map.mp applied
  exact ⟨step, among, same.symm⟩

theorem Library.exists_onText {filter : Filter} (listed : filter ∈ filters) :
    ∃ step, filter.apply = Filters.onText step := by
  obtain ⟨step, -, same⟩ := exists_textChange listed
  exact ⟨step, same⟩

end FieldCheck
