import FieldCheck.Proofs.Pipeline.RecordOfRun
import FieldCheck.Proofs.Pipeline.TextFilters
import FieldCheck.Proofs.Value.Storable
import FieldCheck.Validator

namespace FieldCheck

theorem ErrorMap.ofJson?_toJson (errors : ErrorMap) : ofJson? errors.toJson = some errors := by
  have collected : (errors.entries.map fun entry => (entry.1, Json.string entry.2)).mapM
      (fun member => (codeOfJson? member.2).map fun code => (member.1, code)) =
        some errors.entries := Collect.mapM_map_of_each fun _ _ => rfl
  have restored := congrArg (Option.bind · fun entries => some (OrderedMap.ofList entries)) collected
  rw [Option.bind_some, OrderedMap.ofList_entries] at restored
  exact restored

theorem Outcome.ofJson?_toJson {outcome : Outcome} (storable : outcome.record.Storable) :
    ofJson? outcome.toJson = some outcome := by
  have errorsRead := ErrorMap.ofJson?_toJson outcome.errors
  have recordRead := Record.ofJson?_toJson storable
  simp [toJson, ofJson?, ofMembers?, only?, ofParts?, successOfJson?, errorsRead, recordRead]

namespace Filter

def KeepsPlain (filter : Filter) : Prop :=
  ∀ scalar : Value, scalar.Plain → (filter.apply scalar).Plain

theorem keepsPlain_of_listed {filter listed : Filter} (among : listed ∈ Library.filters)
    (same : filter.apply = listed.apply) : filter.KeepsPlain := by
  intro scalar plain
  obtain ⟨step, applied⟩ := Library.exists_onText among
  rw [same, applied]
  cases scalar with
  | text content => exact ⟨rfl, fun _ same => by cases same⟩
  | _ => exact plain

theorem storable_applyAll {filters : List Filter} {value : Value}
    (keeps : ∀ filter ∈ filters, filter.KeepsPlain) (storable : value.Storable) :
    (applyAll filters value).Storable := by
  induction filters generalizing value with
  | nil => exact storable
  | cons filter rest restIH =>
      obtain ⟨first, others⟩ := List.forall_mem_cons.mp keeps
      exact restIH others (Value.storable_mapScalars first storable)

end Filter

namespace Pipeline

variable {pipeline : Pipeline} {record : Record}

theorem storable_filledIn {field : String} {given : Option Value}
    (storable : ∀ value, given = some value → value.Storable) :
    (pipeline.filledIn field given).Storable := by
  rcases given with _ | value
  · exact Value.storable_placeholder _
  · cases value with
    | null => exact Value.storable_placeholder _
    | _ => exact storable _ rfl

theorem storable_prepopulate (storable : record.Storable) :
    (pipeline.prepopulate record).Storable := by
  intro field value given
  rw [get?_prepopulate] at given
  by_cases configured : field ∈ pipeline.fieldNames
  · rw [if_pos configured] at given
    cases given
    exact storable_filledIn (storable field)
  · rw [if_neg configured] at given
    exact storable field value given

theorem storable_run
    (keeps : ∀ filter ∈ pipeline.preFilters.members ++ pipeline.postFilters.members,
      filter.KeepsPlain)
    (storable : record.Storable) (errors : ErrorMap) (submitted : Bool) :
    (pipeline.run record errors submitted).record.Storable := by
  intro field value given
  rw [get?_run] at given
  obtain ⟨started, prepopulated, rfl⟩ := Option.map_eq_some_iff.mp given
  refine Filter.storable_applyAll (fun filter covering => keeps filter ?_)
    (storable_prepopulate storable field started prepopulated)
  rw [List.mem_append]
  rcases List.mem_append.mp covering with pre | post
  · exact .inl (Groups.mem_members_of_mem_covering pre)
  · cases submitted with
    | false => cases post
    | true => exact .inr (Groups.mem_members_of_mem_covering post)

end Pipeline

namespace Validator

/-- Validates once for each flag, with the record counted as submitted or not. -/
def validateEach (validator : Validator) (flags : List Bool) : Validator :=
  flags.foldl (fun validator submitted => (validator.setSubmitted submitted).validate.1) validator

theorem storable_validateEach {validator : Validator}
    (keeps : ∀ filter ∈ validator.pipeline.preFilters.members ++
      validator.pipeline.postFilters.members, filter.KeepsPlain)
    (storable : validator.record.Storable) (flags : List Bool) :
    (validator.validateEach flags).record.Storable := by
  induction flags generalizing validator with
  | nil => exact storable
  | cons submitted rest restIH =>
      -- A validation leaves the pipeline alone, so what its filters keep holds for the rest too.
      have once : ((validator.setSubmitted submitted).validate.1).record.Storable :=
        Pipeline.storable_run keeps storable validator.errors submitted
      exact restIH keeps once

/-- Of a record that came from JSON, with the filters of the library, any rules and any
callbacks, every outcome survives JSON: what is read back is what was written, with errors
and fields in the same order. -/
theorem outcome_survives_json (validator : Validator) {json : Json} (inRange : json.InRange)
    (read : Record.ofJson? json = some validator.record)
    (filters : ∀ filter ∈ validator.pipeline.preFilters.members ++
      validator.pipeline.postFilters.members, ∃ listed ∈ Library.filters,
        filter.apply = listed.apply)
    (flags : List Bool) :
    let outcome := (validator.validateEach flags).outcome
    Outcome.ofJson? outcome.toJson = some outcome := by
  intro outcome
  have keeps : ∀ filter ∈ validator.pipeline.preFilters.members ++
      validator.pipeline.postFilters.members, filter.KeepsPlain := by
    intro filter member
    obtain ⟨listed, among, same⟩ := filters filter member
    exact Filter.keepsPlain_of_listed among same
  have submitted := Record.storable_of_ofJson? inRange read
  exact Outcome.ofJson?_toJson (storable_validateEach keeps submitted flags)

/-- An order form read from its text, with a number, a list of mixed items and a list that
is filled in, validated as a draft and then as a submission. -/
theorem outcome_of_order_survives_json :
    let text := "\x7b\"count\": 3, \"tags\": [\" a \", null, 2.5], \"name\": \"  \"\x7d"
    let record := ((Json.read? text).bind Record.ofJson?).getD .empty
    let pipeline := (Pipeline.new .builtin .standard).registerAll
      [.filter .pre .every ⟨"trim", .library, Filters.trim⟩,
        .filter .post (.field "tags") ⟨"uppercase", .library, Filters.upperCase⟩,
        .shape "items" .sequence,
        .rule .every ⟨"required", [], .library, fun value _ _ => .of (Rules.required value)⟩]
    let outcome := ((withPipeline record pipeline).validateEach [false, true]).outcome
    outcome.errors.entries = [("name", "required"), ("items", "required")] ∧
      outcome.record.keys = ["count", "tags", "name", "items"] ∧
      (outcome.record.value "tags").display = "[A, , 2.5]".toList ∧
      Outcome.ofJson? outcome.toJson = some outcome := by
  intro text record pipeline outcome
  have accepted : ((Json.read? text).bind Record.ofJson?).isSome = true := by decide +kernel
  obtain ⟨found, read⟩ := Option.isSome_iff_exists.mp accepted
  obtain ⟨json, readText, readJson⟩ := Option.bind_eq_some_iff.mp read
  have isRecord : record = found := congrArg (Option.getD · .empty) read
  have filters : ∀ filter ∈ pipeline.preFilters.members ++ pipeline.postFilters.members,
      ∃ listed ∈ Library.filters, filter.apply = listed.apply := by
    intro filter member
    rcases List.mem_cons.mp member with rfl | member
    · exact ⟨Library.filters[0], List.getElem_mem _, rfl⟩
    · cases List.mem_singleton.mp member
      exact ⟨Library.filters[4], List.getElem_mem _, rfl⟩
  have survives := outcome_survives_json (withPipeline record pipeline)
    (Json.inRange_of_read? readText) (isRecord ▸ readJson) filters [false, true]
  exact ⟨by decide +kernel, by decide +kernel, by decide +kernel, survives⟩

end Validator

end FieldCheck
