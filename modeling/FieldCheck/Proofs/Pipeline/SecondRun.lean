import FieldCheck.Library
import FieldCheck.Proofs.Pipeline.ErrorsOfRun
import FieldCheck.Proofs.Pipeline.TextFilters

namespace FieldCheck

/-! Running a pipeline again on what a run has left.

Where the second run finds the record that the first one judged, every field without an
error passes its rules and callbacks again, and the others are passed over. It finds that
record if no post-filter has changed it and the pre-filters have nothing left to do.
-/

namespace Pipeline

variable {pipeline : Pipeline} {record : Record} {errors others : ErrorMap} {field : String}

theorem record_run_of_no_postFilters (none : pipeline.postFilters.members = [])
    (record : Record) (errors : ErrorMap) (submitted : Bool) :
    (pipeline.run record errors submitted).record = (pipeline.prepare record errors).record := by
  refine OrderedMap.ext_get? ?_ fun field => ?_
  · rw [keys_run, keys_prepare]
  · have noFilter : (if submitted then pipeline.postFilters.covering field else []) = [] := by
      rw [Groups.covering_eq_nil none, ite_self]
    rw [get?_run, get?_prepare, noFilter, List.append_nil]

theorem keys_prepopulate_of_named (named : ∀ field ∈ pipeline.fieldNames, field ∈ record.keys) :
    (pipeline.prepopulate record).keys = record.keys := by
  have noneMissing : pipeline.fieldNames.filter (· ∉ record.keys) = [] := by
    rw [List.filter_eq_nil_iff]
    intro field configured missing
    exact of_decide_eq_true missing (named field configured)
  rw [keys_prepopulate, noneMissing, List.append_nil]

theorem filledIn_some {value : Value} (given : value ≠ .null) (pipeline : Pipeline)
    (field : String) : pipeline.filledIn field (some value) = value := by
  cases value with
  | null => exact absurd rfl given
  | _ => rfl

/-- No placeholder is put in the place of a value that the filters have left. -/
theorem filledIn_applyAll {filters : List Filter}
    (nulls : ∀ value, Filter.applyAll filters value = .null ↔ value = .null)
    (given : Option Value) :
    pipeline.filledIn field (some (Filter.applyAll filters (pipeline.filledIn field given))) =
      Filter.applyAll filters (pipeline.filledIn field given) := by
  by_cases null : pipeline.filledIn field given = .null
  · have kept := (nulls _).mpr null
    rw [kept, ← null, filledIn_some_filledIn]
  · exact filledIn_some (fun made => null ((nulls _).mp made)) pipeline field

/-- A record is prepared once and for all if the pre-filters of each field settle at once
and make no value null. -/
theorem record_prepare_prepare
    (settles : ∀ field value,
      Filter.applyAll (pipeline.preFilters.covering field)
          (Filter.applyAll (pipeline.preFilters.covering field) value) =
        Filter.applyAll (pipeline.preFilters.covering field) value)
    (nulls : ∀ field value,
      Filter.applyAll (pipeline.preFilters.covering field) value = .null ↔ value = .null)
    (record : Record) (errors others : ErrorMap) :
    (pipeline.prepare (pipeline.prepare record errors).record others).record =
      (pipeline.prepare record errors).record := by
  refine OrderedMap.ext_get? ?_ fun field => ?_
  · rw [keys_prepare, keys_prepopulate_of_named fun _ configured => mem_keys_prepare configured]
  · rw [get?_prepare, get?_prepopulate, get?_prepare, get?_prepopulate]
    by_cases configured : field ∈ pipeline.fieldNames
    · simp only [if_pos configured, Option.map_some, filledIn_applyAll (nulls field), settles]
    · simp only [if_neg configured, Option.map_map]
      congr 1
      funext value
      exact settles field value

/-- Trimmings settle at once, however they are mixed. -/
theorem record_prepare_prepare_of_trimmings
    (trims : ∀ filter ∈ pipeline.preFilters.members, filter.apply ∈ Filters.trimmings)
    (record : Record) (errors others : ErrorMap) :
    (pipeline.prepare (pipeline.prepare record errors).record others).record =
      (pipeline.prepare record errors).record := by
  have series (field : String) := Filter.applyAll_onText
    fun filter (covering : filter ∈ pipeline.preFilters.covering field) =>
      Filters.exists_of_mem_trimmings
        (trims filter (Groups.mem_members_of_mem_covering covering))
  apply record_prepare_prepare
  · intro field value
    obtain ⟨steps, among, applied⟩ := series field
    simp only [applied, Value.mapScalars_onText_onText, Text.applyAll_trimmings_applyAll among]
  · intro field value
    obtain ⟨steps, _, applied⟩ := series field
    rw [applied, Value.mapScalars_onText_eq_null]

theorem errors_run_again
    (contained : ∀ callback ∈ pipeline.callbacks.members, callback.SelfContained)
    {left right : Record}
    (samePrepared : (pipeline.prepare right (pipeline.run left errors true).errors).record =
      (pipeline.prepare left errors).record) :
    (pipeline.run right (pipeline.run left errors true).errors true).errors =
      (pipeline.run left errors true).errors := by
  -- The codes that the second run has to give are those that the first one gave.
  refine OrderedMap.eq_of_keys_prefix (pipeline.keys_prefix_run _ _ _) fun field => ?_
  rw [get?_errors_run _ _ _ _ contained, samePrepared, get?_errors_run _ _ _ _ contained,
    Option.or_assoc, Option.or_self]

/-- A second run on what a run has left gives the same answer and changes nothing, if there
are no post-filters, callbacks are self-contained, and the record that the first run left is
not changed by preparing it. It is not if the pre-filters are trimmings, however mixed. -/
theorem run_again_changes_nothing (pipeline : Pipeline)
    (noPostFilters : pipeline.postFilters.members = [])
    (contained : ∀ callback ∈ pipeline.callbacks.members, callback.SelfContained)
    (record : Record) (errors : ErrorMap) (submitted : Bool) :
    let first := pipeline.run record errors submitted
    ((pipeline.prepare first.record first.errors).record = first.record →
      let again := pipeline.run first.record first.errors submitted
      again.accepted = first.accepted ∧ again.record = first.record ∧
        again.errors = first.errors) ∧
    ((∀ filter ∈ pipeline.preFilters.members, filter.apply ∈ Filters.trimmings) →
      (pipeline.prepare first.record first.errors).record = first.record) := by
  intro first
  have prepared : first.record = (pipeline.prepare record errors).record :=
    record_run_of_no_postFilters noPostFilters record errors submitted
  refine ⟨fun settled => ?_, fun trims => ?_⟩
  · have sameErrors : (pipeline.run first.record first.errors submitted).errors =
        first.errors := by
      cases submitted with
      | false => exact errors_run_false pipeline first.record first.errors
      | true => exact errors_run_again contained (settled.trans prepared)
    have sameRecord := record_run_of_no_postFilters noPostFilters first.record first.errors
      submitted
    refine ⟨?_, sameRecord.trans settled, sameErrors⟩
    rw [run_accepted, sameErrors]
    exact (run_accepted pipeline record errors submitted).symm
  · rw [prepared]
    exact record_prepare_prepare_of_trimmings trims record errors first.errors

/-- A form with a field that fails its rule, a list that is filled in, two trimmings that
meet on one field, and a trap that a program has walked into. -/
theorem run_again_of_form :
    let pipeline := (new .builtin .standard).registerAll
      [.filter .pre .every ⟨"trim", .library, Filters.trim⟩,
        .filter .pre (.field "motto") ⟨"collapse", .library, Filters.collapseBlanks⟩,
        .shape "tags" .sequence,
        .rule .every ⟨"required", [], .library, fun value _ _ => .of (Rules.required value)⟩,
        .callback (.field "website") Library.honeypot]
    let record : Record := .ofList [("name", .text "  "), ("motto", .text " a \t b "),
      ("website", .text "x")]
    let first := pipeline.run record .empty true
    let again := pipeline.run first.record first.errors true
    first.errors.entries = [("name", "required"), ("tags", "required"), ("website", "invalid")] ∧
      again.accepted = first.accepted ∧ again.record = first.record ∧
      again.errors = first.errors := by
  intro pipeline record first again
  have noPostFilters : pipeline.postFilters.members = [] := rfl
  have contained : ∀ callback ∈ pipeline.callbacks.members, callback.SelfContained := by
    intro callback member
    cases List.mem_singleton.mp member
    exact Library.honeypot_selfContained
  have trims : ∀ filter ∈ pipeline.preFilters.members, filter.apply ∈ Filters.trimmings := by
    intro filter member
    have among : filter.apply = Filters.trim ∨ filter.apply = Filters.collapseBlanks := by
      rcases List.mem_cons.mp member with rfl | member
      · exact .inl rfl
      · cases List.mem_singleton.mp member
        exact .inr rfl
    rcases among with same | same <;> simp [same, Filters.trimmings]
  obtain ⟨unchanged, settled⟩ := run_again_changes_nothing pipeline noPostFilters contained
    record .empty true
  exact ⟨by decide, unchanged (settled trims)⟩

end Pipeline

end FieldCheck
