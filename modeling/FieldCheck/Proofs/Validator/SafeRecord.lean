import FieldCheck.Proofs.Validator.History

namespace FieldCheck

namespace Validator

variable {validator : Validator} {choices : List String} {field : String}

theorem nodup_fieldNames (validator : Validator) : validator.fieldNames.Nodup :=
  nodup_distinct _

/-- The fields to show: the configured ones or, if there are choices, those among the choices,
each where it is chosen first. -/
def shownFields (validator : Validator) (choices : List String) : List String :=
  if choices = [] then validator.fieldNames
  else distinct (choices.filter (· ∈ validator.fieldNames))

theorem mem_fieldNames_of_mem_shownFields (shown : field ∈ validator.shownFields choices) :
    field ∈ validator.fieldNames := by
  unfold shownFields at shown
  split at shown
  · exact shown
  · exact of_decide_eq_true (List.mem_filter.mp (mem_distinct.mp shown)).2

theorem entries_safeRecord (validator : Validator) (choices : List String) :
    (validator.safeRecord choices).entries =
      (validator.shownFields choices).map fun field => (field, validator.record.value field) := by
  have isConfigured : validator.fieldNames.contains = fun field =>
      decide (field ∈ validator.fieldNames) := funext fun _ => List.contains_eq_mem _ _
  rw [safeRecord, OrderedMap.entries_ofList_map, isConfigured, shownFields]
  by_cases unrestricted : choices = []
  · have all : validator.fieldNames.filter (· ∈ validator.fieldNames) = validator.fieldNames :=
      List.filter_eq_self.mpr fun _ member => decide_eq_true member
    rw [if_pos (List.isEmpty_iff.mpr unrestricted), if_pos unrestricted, all,
      distinct_of_nodup validator.nodup_fieldNames]
  · rw [if_neg (mt List.isEmpty_iff.mp unrestricted), if_neg unrestricted]

theorem keys_safeRecord (validator : Validator) (choices : List String) :
    (validator.safeRecord choices).keys = validator.shownFields choices := by
  rw [OrderedMap.keys, Assoc.keys, entries_safeRecord, List.map_map]
  exact List.map_id _

theorem get?_safeRecord (shown : field ∈ (validator.safeRecord choices).keys) :
    (validator.safeRecord choices).get? field = some (validator.record.value field) := by
  rw [keys_safeRecord] at shown
  have member : (field, validator.record.value field) ∈ (validator.safeRecord choices).entries := by
    rw [entries_safeRecord]
    exact List.mem_map.mpr ⟨field, shown, rfl⟩
  exact OrderedMap.get?_of_mem_entries member

end Validator

/-- The safe record of any validator there can be holds the configured fields in their order or,
if choices are given, those of them that are among the choices, each once, in the order of the
choices. A field has there the value that it has in the working record, and null if it is
missing. The configured fields are those that the registrations of the validator name. -/
theorem safeRecord_shows_configured_fields {validator : Validator} {past : List Validation}
    (reached : Reached validator past) (choices : List String) :
    let shown := validator.safeRecord choices
    shown.keys = (if choices = [] then validator.fieldNames
      else distinct (choices.filter (· ∈ validator.fieldNames))) ∧
    (∀ field ∈ shown.keys, shown.get? field = some ((validator.record.get? field).getD .null)) ∧
    ∃ registry config registrations,
      validator.pipeline = (Pipeline.new registry config).registerAll registrations ∧
      validator.fieldNames = Registration.fieldNames registrations ∧
      ∀ field ∈ shown.keys, ∃ registration ∈ registrations,
        registration.field? = some field := by
  intro shown
  obtain ⟨registry, config, registrations, registered⟩ := reached.pipeline_registered
  have names : validator.fieldNames = Registration.fieldNames registrations := by
    rw [Validator.fieldNames, registered, Pipeline.fieldNames_registerAll_new]
  refine ⟨validator.keys_safeRecord choices, fun field => Validator.get?_safeRecord, registry,
    config, registrations, registered, names, fun field member => ?_⟩
  rw [← Registration.mem_fieldNames, ← names]
  exact Validator.mem_fieldNames_of_mem_shownFields (validator.keys_safeRecord choices ▸ member)

/-- A form with a trimmed name and a list of tags, validated and then shown by choices that name
the tags twice and a field that was only submitted. -/
theorem safeRecord_of_trimmed_form :
    let form : Record := .ofList [("role", .text "admin"), ("name", .text " Ann ")]
    let configured := (((Validator.new form).filterWith .pre (.field "name") "trim"
      Filters.trim).declare "note" .scalar).declare "tags" .sequence
    let choices := ["tags", "role", "name", "tags"]
    let shown := configured.validate.1.safeRecord choices
    Reached configured.validate.1 [⟨true, configured.validate.2.accepted⟩] ∧
      shown.keys = ["tags", "name"] ∧ (shown.get? "name").bind Value.text? = some "Ann" := by
  intro form configured choices shown
  have trimmed := Reached.configured (.filterWith .pre (.field "name") "trim" Filters.trim)
    (.new form) rfl
  have noted := trimmed.configured (.declare "note" .scalar) rfl
  have reached := (noted.configured (.declare "tags" .sequence) rfl).validated
  obtain ⟨keys, values, _⟩ := safeRecord_shows_configured_fields reached choices
  have names : shown.keys = ["tags", "name"] := keys.trans (by decide +kernel)
  have name : shown.get? "name" = _ := values "name" (by rw [names]; decide)
  refine ⟨reached, names, ?_⟩
  rw [name]
  decide +kernel

end FieldCheck
