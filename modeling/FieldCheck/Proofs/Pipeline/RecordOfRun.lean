import FieldCheck.Proofs.Pipeline.CallbackStage
import FieldCheck.Proofs.Pipeline.RuleStage

namespace FieldCheck

namespace Filter

/-- Applies filters one after the other, each to all scalars of a value. -/
def applyAll (filters : List Filter) (value : Value) : Value :=
  filters.foldl (fun value filter => value.mapScalars filter.apply) value

theorem applyAll_append (earlier later : List Filter) (value : Value) :
    applyAll (earlier ++ later) value = applyAll later (applyAll earlier value) :=
  List.foldl_append

theorem applyAll_list (filters : List Filter) (items : List Value) :
    ∃ filtered, applyAll filters (.list items) = .list filtered ∧
      filtered.length = items.length := by
  induction filters generalizing items with
  | nil => exact ⟨items, rfl, rfl⟩
  | cons filter rest restIH =>
      obtain ⟨filtered, series, size⟩ := restIH (items.map filter.apply)
      exact ⟨filtered, series, size.trans (List.length_map _)⟩

end Filter

namespace Pipeline

/-- What a configured field holds once missing fields are filled in. -/
def filledIn (pipeline : Pipeline) (field : String) : Option Value → Value
  | none | some .null => (pipeline.shape field).placeholder
  | some value => value

variable (pipeline : Pipeline) (record : Record) (field wanted : String)

theorem filledIn_some_filledIn (given : Option Value) :
    pipeline.filledIn field (some (pipeline.filledIn field given)) =
      pipeline.filledIn field given := by
  have placeholder : pipeline.filledIn field (some (pipeline.shape field).placeholder) =
      (pipeline.shape field).placeholder := by
    cases shape : pipeline.shape field <;> simp [filledIn, shape, Shape.placeholder]
  rcases given with _ | value
  · exact placeholder
  · cases value with
    | null => exact placeholder
    | _ => rfl

theorem keys_fillIn : (pipeline.fillIn record field).keys = addNew record.keys field := by
  cases given : record.get? field with
  | none => simp only [fillIn, given, OrderedMap.keys_insert_eq_addNew]
  | some value =>
      have present : field ∈ record.keys := OrderedMap.isSome_get?_iff.mp (by rw [given]; rfl)
      cases value with
      | null => simp only [fillIn, given, OrderedMap.keys_insert_eq_addNew]
      | _ => simp only [fillIn, given, addNew, if_pos present]

theorem get?_fillIn : (pipeline.fillIn record field).get? wanted =
    if wanted = field then some (pipeline.filledIn field (record.get? field))
    else record.get? wanted := by
  cases given : record.get? field with
  | none => simp only [fillIn, given, OrderedMap.get?_insert, filledIn]
  | some value =>
      cases value with
      | null => simp only [fillIn, given, OrderedMap.get?_insert, filledIn]
      | _ =>
          simp only [fillIn, given, filledIn]
          split
          · rename_i same
            rw [same, given]
          · rfl

/-- The configured fields that are missing come after those of the record. -/
theorem keys_prepopulate : (pipeline.prepopulate record).keys =
    record.keys ++ pipeline.fieldNames.filter (· ∉ record.keys) := by
  have series (fields : List String) :
      (fields.foldl pipeline.fillIn record).keys = fields.foldl addNew record.keys := by
    induction fields generalizing record with
    | nil => rfl
    | cons field rest restIH => rw [List.foldl_cons, restIH, keys_fillIn, List.foldl_cons]
  rw [prepopulate, series, foldl_addNew, fieldNames, distinct_distinct]

theorem get?_prepopulate : (pipeline.prepopulate record).get? field =
    if field ∈ pipeline.fieldNames then some (pipeline.filledIn field (record.get? field))
    else record.get? field := by
  have series (fields : List String) : (fields.foldl pipeline.fillIn record).get? field =
      if field ∈ fields then some (pipeline.filledIn field (record.get? field))
      else record.get? field := by
    induction fields generalizing record with
    | nil => simp
    | cons head rest restIH =>
        rw [List.foldl_cons, restIH, get?_fillIn]
        by_cases same : field = head
        · subst same
          simp [filledIn_some_filledIn]
        · simp [same]
  exact series pipeline.fieldNames

variable (progress : Progress) (visit : String × Filter) (visits : List (String × Filter))

theorem get?_filterStep : (filterStep progress visit).record.get? field =
    if field = visit.1 then
      some ((progress.record.value visit.1).mapScalars visit.2.apply)
    else progress.record.get? field :=
  progress.record.get?_insert visit.1 field _

theorem keys_filterStep {progress : Progress} {visit : String × Filter}
    (present : visit.1 ∈ progress.record.keys) :
    (filterStep progress visit).record.keys = progress.record.keys :=
  OrderedMap.keys_insert_of_mem _ present

theorem keys_foldl_filterStep {progress : Progress} {visits : List (String × Filter)}
    (present : ∀ visit ∈ visits, visit.1 ∈ progress.record.keys) :
    (visits.foldl filterStep progress).record.keys = progress.record.keys := by
  induction visits generalizing progress with
  | nil => rfl
  | cons visit rest restIH =>
      obtain ⟨first, others⟩ := List.forall_mem_cons.mp present
      have same := keys_filterStep first
      rw [List.foldl_cons, restIH (fun visit member => same ▸ others visit member), same]

/-- The value of a field comes from its own value and its own visits. -/
theorem get?_foldl_filterStep {value : Value} (given : progress.record.get? field = some value) :
    (visits.foldl filterStep progress).record.get? field =
      some (Filter.applyAll ((visits.filter (·.1 = field)).map Prod.snd) value) := by
  induction visits generalizing progress value with
  | nil => exact given
  | cons visit rest restIH =>
      have next := get?_filterStep field progress visit
      by_cases same : field = visit.1
      · rw [if_pos same, ← same, Record.value, given] at next
        rw [List.foldl_cons, restIH _ next, List.filter_cons, if_pos (decide_eq_true same.symm)]
        rfl
      · rw [if_neg same, given] at next
        rw [List.foldl_cons, restIH _ next, List.filter_cons,
          if_neg (by simpa using Ne.symm same)]

variable {groups : Groups Filter} {progress : Progress}

theorem foldl_filterGroup {entries : List (Target × List Filter)}
    (present : ∀ visit ∈ entries.flatMap (Groups.groupVisits progress.record.keys),
      visit.1 ∈ progress.record.keys) :
    entries.foldl filterGroup progress =
      (entries.flatMap (Groups.groupVisits progress.record.keys)).foldl filterStep progress := by
  induction entries generalizing progress with
  | nil => rfl
  | cons group rest restIH =>
      rw [List.flatMap_cons] at present
      obtain ⟨first, others⟩ := List.forall_mem_append.mp present
      have same : (filterGroup progress group).record.keys = progress.record.keys :=
        keys_foldl_filterStep first
      rw [List.foldl_cons, restIH (same.symm ▸ others), same, List.flatMap_cons,
        List.foldl_append, filterGroup]

theorem mem_keys_of_mem_fieldVisits
    (named : ∀ field ∈ groups.fieldNames, field ∈ progress.record.keys) :
    ∀ visit ∈ groups.fieldVisits progress.record.keys, visit.1 ∈ progress.record.keys := by
  intro visit visited
  rcases Groups.mem_of_mem_fieldVisits visited with present | target
  · exact present
  · exact named _ target

/-- Every group finds the same fields if the record holds those that are named. -/
theorem applyFilters_eq_foldl_fieldVisits
    (named : ∀ field ∈ groups.fieldNames, field ∈ progress.record.keys) :
    applyFilters groups progress =
      (groups.fieldVisits progress.record.keys).foldl filterStep progress :=
  foldl_filterGroup (mem_keys_of_mem_fieldVisits named)

theorem keys_applyFilters (named : ∀ field ∈ groups.fieldNames, field ∈ progress.record.keys) :
    (applyFilters groups progress).record.keys = progress.record.keys := by
  rw [applyFilters_eq_foldl_fieldVisits named]
  exact keys_foldl_filterStep (mem_keys_of_mem_fieldVisits named)

theorem get?_applyFilters (named : ∀ field ∈ groups.fieldNames, field ∈ progress.record.keys)
    (field : String) :
    (applyFilters groups progress).record.get? field =
      (progress.record.get? field).map (Filter.applyAll (groups.covering field)) := by
  cases given : progress.record.get? field with
  | none =>
      rw [OrderedMap.get?_eq_none_iff_not_mem] at given
      rw [Option.map_none, OrderedMap.get?_eq_none_iff_not_mem, keys_applyFilters named]
      exact given
  | some value =>
      have present : field ∈ progress.record.keys :=
        OrderedMap.isSome_get?_iff.mp (by rw [given]; rfl)
      rw [applyFilters_eq_foldl_fieldVisits named, get?_foldl_filterStep field progress _ given,
        Groups.filter_fieldVisits groups progress.record.nodup_keys present, List.map_map]
      simp [Function.comp_def]

theorem preFilters_named {pipeline : Pipeline} {field : String}
    (target : field ∈ pipeline.preFilters.fieldNames) : field ∈ pipeline.fieldNames := by
  simp [fieldNames, target]

theorem postFilters_named {pipeline : Pipeline} {field : String}
    (target : field ∈ pipeline.postFilters.fieldNames) : field ∈ pipeline.fieldNames := by
  simp [fieldNames, target]

theorem mem_keys_prepopulate {pipeline : Pipeline} {record : Record} {field : String}
    (configured : field ∈ pipeline.fieldNames) : field ∈ (pipeline.prepopulate record).keys := by
  rw [keys_prepopulate, List.mem_append, List.mem_filter, decide_eq_true_eq]
  by_cases given : field ∈ record.keys
  · exact .inl given
  · exact .inr ⟨configured, given⟩

variable (errors : ErrorMap)

theorem keys_prepare : (pipeline.prepare record errors).record.keys =
    (pipeline.prepopulate record).keys :=
  keys_applyFilters fun _ target => mem_keys_prepopulate (preFilters_named target)

theorem get?_prepare : (pipeline.prepare record errors).record.get? field =
    ((pipeline.prepopulate record).get? field).map
      (Filter.applyAll (pipeline.preFilters.covering field)) :=
  get?_applyFilters (fun _ target => mem_keys_prepopulate (preFilters_named target)) field

theorem record_applyRules (progress : Progress) :
    (pipeline.applyRules progress).record = progress.record :=
  record_foldl_ruleStep pipeline progress _

theorem record_applyCallbacks (progress : Progress) :
    (pipeline.applyCallbacks progress).record = progress.record := by
  rw [applyCallbacks, foldl_callbackStep]

theorem postFilters_present {field : String}
    (target : field ∈ pipeline.postFilters.fieldNames) :
    field ∈ (pipeline.applyCallbacks (pipeline.applyRules
      (pipeline.prepare record errors))).record.keys := by
  rw [record_applyCallbacks, record_applyRules, keys_prepare]
  exact mem_keys_prepopulate (postFilters_named target)

theorem keys_run (submitted : Bool) : (pipeline.run record errors submitted).record.keys =
    (pipeline.prepopulate record).keys := by
  cases submitted with
  | false => exact keys_prepare pipeline record errors
  | true =>
      have judged : (pipeline.run record errors true).record.keys =
          (pipeline.applyCallbacks (pipeline.applyRules
            (pipeline.prepare record errors))).record.keys :=
        keys_applyFilters fun _ target => postFilters_present pipeline record errors target
      rw [judged, record_applyCallbacks, record_applyRules, keys_prepare]

theorem get?_run (submitted : Bool) :
    (pipeline.run record errors submitted).record.get? field =
      ((pipeline.prepopulate record).get? field).map
        (Filter.applyAll (pipeline.preFilters.covering field ++
          if submitted then pipeline.postFilters.covering field else [])) := by
  cases submitted with
  | false =>
      simp only [Bool.false_eq_true, if_false, List.append_nil]
      exact get?_prepare pipeline record field errors
  | true =>
      have judged : (pipeline.run record errors true).record.get? field =
          ((pipeline.applyCallbacks (pipeline.applyRules
            (pipeline.prepare record errors))).record.get? field).map
              (Filter.applyAll (pipeline.postFilters.covering field)) :=
        get?_applyFilters (fun _ target => postFilters_present pipeline record errors target) field
      rw [judged, record_applyCallbacks, record_applyRules, get?_prepare, Option.map_map]
      congr 1
      funext value
      exact (Filter.applyAll_append _ _ value).symm

/-- What a field holds before any filter: what was submitted, or for a configured field
that is missing or null the placeholder of its shape. -/
def startingValue? (registrations : List Registration) (record : Record) (field : String) :
    Option Value :=
  match record.get? field with
  | none | some .null =>
      if field ∈ Registration.fieldNames registrations then
        some (Registration.shapeOf registrations field).placeholder
      else record.get? field
  | some value => some value

theorem get?_prepopulate_registerAll_new (registry : Registry) (config : Config)
    (registrations : List Registration) :
    (((new registry config).registerAll registrations).prepopulate record).get? field =
      startingValue? registrations record field := by
  rw [get?_prepopulate, fieldNames_registerAll_new, startingValue?]
  cases given : record.get? field with
  | none => simp only [filledIn, shape_registerAll_new]
  | some value =>
      cases value with
      | null => simp only [filledIn, shape_registerAll_new]
      | _ => simp only [filledIn, ite_self]

/-- A run leaves the fields of the record in their order, and after them the configured
fields that were missing. No stage changes that. The value of a field is its starting value
after the pre-filters registered on the field or on every field and, if the record was
submitted, after the post-filters registered so. -/
theorem run_filters_each_field_alone (registry : Registry) (config : Config)
    (registrations : List Registration) (record : Record) (errors : ErrorMap)
    (submitted : Bool) :
    let pipeline := (new registry config).registerAll registrations
    let configured := Registration.fieldNames registrations
    let fields := record.keys ++ configured.filter (· ∉ record.keys)
    let prepared := pipeline.prepare record errors
    let ruled := pipeline.applyRules prepared
    let after := pipeline.run record errors submitted
    pipeline.fieldNames = configured ∧
    (pipeline.prepopulate record).keys = fields ∧ prepared.record.keys = fields ∧
    ruled.record = prepared.record ∧ (pipeline.applyCallbacks ruled).record = ruled.record ∧
    after.record.keys = fields ∧
    ∀ field, after.record.get? field =
      (startingValue? registrations record field).map
        (Filter.applyAll
          (Groups.registeredFor field (registrations.filterMap (Registration.filter? .pre)) ++
            if submitted then
              Groups.registeredFor field (registrations.filterMap (Registration.filter? .post))
            else [])) := by
  intro pipeline configured fields prepared ruled after
  have names : pipeline.fieldNames = configured :=
    fieldNames_registerAll_new registrations registry config
  have filledIn : (pipeline.prepopulate record).keys = fields := by
    rw [keys_prepopulate, names]
  have pre : ∀ field, pipeline.preFilters.covering field = Groups.registeredFor field
      (registrations.filterMap (Registration.filter? .pre)) := by
    intro field
    rw [preFilters_registerAll]
    exact Groups.covering_addAll_empty _ field
  have post : ∀ field, pipeline.postFilters.covering field = Groups.registeredFor field
      (registrations.filterMap (Registration.filter? .post)) := by
    intro field
    rw [postFilters_registerAll]
    exact Groups.covering_addAll_empty _ field
  refine ⟨names, filledIn, (keys_prepare pipeline record errors).trans filledIn,
    record_applyRules pipeline prepared, record_applyCallbacks pipeline ruled,
    (keys_run pipeline record errors submitted).trans filledIn, ?_⟩
  intro field
  rw [get?_run, get?_prepopulate_registerAll_new, pre, post]

end Pipeline

end FieldCheck
