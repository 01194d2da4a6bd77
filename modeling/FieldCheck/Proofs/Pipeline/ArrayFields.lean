import FieldCheck.Proofs.Pipeline.SecondRun

namespace FieldCheck

theorem Library.exists_isArray :
    ∃ rule, Registry.builtin.rule "is_array" = .ok rule ∧ rule.contract.accepts [] = true ∧
      rule.shape = some .sequence ∧
      ∀ value arguments context, rule.check value arguments context = .of value.isList :=
  ⟨_, rfl, rfl, rfl, fun _ _ _ => rfl⟩

namespace Registration

def Unfiltered (registrations : List Registration) : Prop :=
  ∀ registration ∈ registrations, ∀ stage, registration.filter? stage = none

theorem Unfiltered.filterMap_filter? {registrations : List Registration}
    (unfiltered : Unfiltered registrations) (stage : FilterStage) :
    registrations.filterMap (filter? stage) = [] :=
  List.filterMap_eq_nil_iff.mpr fun registration member => unfiltered registration member stage

end Registration

namespace Value

theorem eq_of_isBlank {value : Value} (blank : value.isBlank = true)
    (notList : value.isList = false) (notNull : value ≠ .null) :
    value = .bool false ∨ value = .text "" := by
  cases value with
  | null => exact absurd rfl notNull
  | bool flag =>
      cases flag with
      | false => exact .inl rfl
      | true => cases blank
  | number x => cases blank
  | text content =>
      rw [isBlank, String.isEmpty_iff] at blank
      exact .inr (congrArg text blank)
  | list items => cases notList

end Value

namespace Pipeline

variable {pipeline : Pipeline} {record : Record} {field : String}

theorem record_prepare_of_no_preFilters (none : pipeline.preFilters.members = [])
    (record : Record) (errors : ErrorMap) :
    (pipeline.prepare record errors).record = pipeline.prepopulate record := by
  refine OrderedMap.ext_get? (keys_prepare pipeline record errors) fun field => ?_
  rw [get?_prepare, Groups.covering_eq_nil none]
  exact Option.map_id'

/-- A sequence is filled in with the empty list, and a value that is not null stays. -/
theorem filledIn_sequence (sequence : pipeline.shape field = .sequence) (given : Option Value) :
    pipeline.filledIn field given = .list [] ∨
      (pipeline.filledIn field given ≠ .null ∧
        given = some (pipeline.filledIn field given)) := by
  have placeholder : (pipeline.shape field).placeholder = .list [] := by rw [sequence]; rfl
  cases given with
  | none => exact .inl placeholder
  | some value =>
      by_cases null : value = .null
      · subst null
        exact .inl placeholder
      · rw [filledIn_some null]
        exact .inr ⟨null, rfl⟩

/-- A rule for lists is satisfied by lists, and by what it passes over. -/
theorem isList_or_passed_over {rule : BoundRule}
    (judges : ∀ value arguments context, rule.check value arguments context = .of value.isList)
    (passes : pipeline.fails record (field, rule) ≠ true) :
    (record.value field).isList = true ∨
      ((record.value field).isList = false ∧ (record.value field).isBlank = true ∧
        pipeline.config.isEmptyExempt rule.name = false) := by
  cases list : (record.value field).isList with
  | true => exact .inl rfl
  | false =>
      have refused : (pipeline.verdict record (field, rule)).passed = false := by
        rw [verdict, judges, list]
        rfl
      have skipped : pipeline.applicable record field rule = false := by
        simpa [fails, refused] using passes
      rw [applicable, Bool.or_eq_false_iff, Bool.not_eq_false'] at skipped
      exact .inr ⟨rfl, skipped⟩

variable (registry : Registry) (config : Config) {registrations : List Registration}

/-- A run without filters leaves the record as the filling in has left it. -/
theorem record_run_of_unfiltered (unfiltered : Registration.Unfiltered registrations)
    (record : Record) (errors : ErrorMap) (submitted : Bool) :
    let pipeline := (new registry config).registerAll registrations
    (pipeline.prepare record errors).record = pipeline.prepopulate record ∧
      (pipeline.run record errors submitted).record = pipeline.prepopulate record := by
  intro pipeline
  have noPreFilters : pipeline.preFilters.members = [] := by
    rw [preFilters_registerAll, unfiltered.filterMap_filter?]
    rfl
  have noPostFilters : pipeline.postFilters.members = [] := by
    rw [postFilters_registerAll, unfiltered.filterMap_filter?]
    rfl
  have prepared := record_prepare_of_no_preFilters noPreFilters record errors
  exact ⟨prepared,
    (record_run_of_no_postFilters noPostFilters record errors submitted).trans prepared⟩

theorem mem_fieldNames_of_rule {rule : BoundRule}
    (registered : .rule (.field field) rule ∈ registrations) :
    field ∈ ((new registry config).registerAll registrations).fieldNames := by
  refine rules_named (Groups.mem_fieldNames.mpr ?_)
  rw [rules_registerAll, new, Groups.keys_addAll_empty, mem_distinct, List.mem_map]
  exact ⟨(.field field, rule), List.mem_filterMap.mpr ⟨_, registered, rfl⟩, rfl⟩

theorem isList_of_accepted (rule : BoundRule)
    (judges : ∀ value arguments context, rule.check value arguments context = .of value.isList)
    (registered : .rule (.field field) rule ∈ registrations)
    (sequence : Registration.shapeOf registrations field = .sequence)
    (unfiltered : Registration.Unfiltered registrations)
    (accepted : (((new registry config).registerAll registrations).run record .empty
      true).accepted = true) :
    let pipeline := (new registry config).registerAll registrations
    let after := pipeline.run record .empty true
    (after.record.value field).isList = true ∨
      (pipeline.config.isEmptyExempt rule.name = false ∧
        record.get? field = some (after.record.value field) ∧
        (after.record.value field = .bool false ∨ after.record.value field = .text "")) := by
  intro pipeline after
  obtain ⟨prepared, left⟩ := record_run_of_unfiltered registry config unfiltered record .empty true
  have configured : field ∈ pipeline.fieldNames :=
    mem_fieldNames_of_rule registry config registered
  have value : after.record.value field = pipeline.filledIn field (record.get? field) := by
    rw [Record.value, left, get?_prepopulate, if_pos configured]
    rfl
  have noErrors : after.errors.keys = [] := by
    rw [← OrderedMap.isEmpty_iff_keys, ← Bool.true_and after.errors.isEmpty, ← run_accepted]
    exact accepted
  have passes : pipeline.fails after.record (field, rule) ≠ true := by
    intro failing
    rw [left, ← prepared] at failing
    have failed := mem_errors_run_of_registered registered (decide_eq_true rfl)
      (mem_keys_prepare configured) failing
    rw [noErrors] at failed
    cases failed
  obtain list | ⟨notList, blank, notExempt⟩ := isList_or_passed_over judges passes
  · exact .inl list
  · obtain empty | ⟨notNull, given⟩ :=
      filledIn_sequence ((shape_registerAll_new registrations registry config field).trans sequence)
        (record.get? field)
    · rw [value, empty] at notList
      cases notList
    · rw [← value] at notNull given
      exact .inr ⟨notExempt, given, Value.eq_of_isBlank blank notList notNull⟩

/-- If `is_array` is registered on a field of a pipeline without filters, and the field is
not declared a scalar after that, then an accepted record has a list there. The one other
case is a blank value that was submitted, false or the empty text, where the rule does not
run on blank values: the value stays as it is. -/
theorem accepted_arrays_are_lists (registry : Registry) (config : Config)
    (earlier later : List Registration) (field : String)
    (resolved : registry.rule "is_array" = Registry.builtin.rule "is_array")
    (unfiltered : Registration.Unfiltered (earlier ++ later))
    (stands : .shape field .scalar ∉ later) :
    ∃ middle, ((new registry config).registerAll earlier).addRule (.field field)
        ⟨"is_array", []⟩ = .ok middle ∧
      ∀ record,
        let pipeline := middle.registerAll later
        let after := pipeline.run record .empty true
        after.accepted = true →
          (after.record.value field).isList = true ∨
            (pipeline.config.isEmptyExempt "is_array" = false ∧
              record.get? field = some (after.record.value field) ∧
              (after.record.value field = .bool false ∨ after.record.value field = .text "")) := by
  obtain ⟨rule, listed, accepts, sequence, judges⟩ := Library.exists_isArray
  let bound : BoundRule := ⟨"is_array", [], rule.origin, rule.check⟩
  let own : List Registration := [.shape field .sequence, .rule (.field field) bound]
  have comes : ruleRegistrations (.field field) ⟨"is_array", []⟩ rule = own := by
    rw [ruleRegistrations, sequence]
    rfl
  have registered : .rule (.field field) bound ∈ earlier ++ (own ++ later) := by simp [own]
  have declared : Registration.shapeOf (earlier ++ (own ++ later)) field = .sequence := by
    refine Registration.shapeOf_of_last_declaration fun other redeclared => ?_
    cases other with
    | sequence => rfl
    | scalar =>
        obtain _ | ⟨_, redeclared⟩ := redeclared
        exact absurd redeclared stands
  have unfilteredAll : Registration.Unfiltered (earlier ++ (own ++ later)) := by
    obtain ⟨before, after⟩ := List.forall_mem_append.mp unfiltered
    refine List.forall_mem_append.mpr ⟨before, List.forall_mem_append.mpr ⟨?_, after⟩⟩
    simp [own, Registration.filter?]
  obtain ⟨middle, added, whole⟩ := addRule_after registry config earlier (.field field)
    ⟨"is_array", []⟩ (resolved.trans listed) accepts
  refine ⟨middle, added, fun record => ?_⟩
  rw [whole, comes]
  exact isList_of_accepted registry config bound judges registered declared unfilteredAll

/-- The tags of an order, missing in the record and once declared a scalar, with a trap that
no program has walked into. -/
theorem accepted_tags_are_list :
    let pipeline? := ((new .builtin .standard).registerAll
      [.shape "tags" .scalar, .emptyRule "is_array"]).addRule (.field "tags") ⟨"is_array", []⟩
    let record : Record := .ofList [("name", .text "Ada")]
    ∃ middle, pipeline? = .ok middle ∧
      let after := (middle.registerAll [.callback (.field "website") Library.honeypot]).run
        record .empty true
      after.accepted = true ∧ (after.record.value "tags").isList = true := by
  intro pipeline? record
  have unfiltered : Registration.Unfiltered ([.shape "tags" .scalar, .emptyRule "is_array"] ++
      [.callback (.field "website") Library.honeypot]) := by
    simp [Registration.Unfiltered, Registration.filter?]
  have stands : .shape "tags" .scalar ∉
      [Registration.callback (.field "website") Library.honeypot] := by
    simp
  obtain ⟨middle, added, lists⟩ := accepted_arrays_are_lists .builtin .standard
    [.shape "tags" .scalar, .emptyRule "is_array"]
    [.callback (.field "website") Library.honeypot] "tags" rfl unfiltered stands
  have accepted : ((middle.registerAll [.callback (.field "website") Library.honeypot]).run
      record .empty true).accepted = true := by
    cases added
    decide
  refine ⟨middle, added, accepted, ?_⟩
  obtain list | ⟨notExempt, -⟩ := lists record accepted
  · exact list
  · cases added
    exact absurd notExempt (by decide)

/-- The empty text is accepted where there should be a list. -/
theorem empty_text_accepted_as_array :
    ∃ pipeline, (new .builtin .standard).addRule (.field "tags") ⟨"is_array", []⟩ = .ok pipeline ∧
      let record : Record := .ofList [("tags", .text "")]
      let after := pipeline.run record .empty true
      after.accepted = true ∧ (after.record.value "tags").isList = false :=
  ⟨_, rfl, by decide, by decide⟩

end Pipeline

end FieldCheck
