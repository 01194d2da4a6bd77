import FieldCheck.Proofs.Pipeline.RecordOfRun

namespace FieldCheck

/-- A callback that decides from the record alone and flags no field but its own. -/
structure Callback.SelfContained (callback : Callback) : Prop where
  ofRecord : ∀ record errors others field,
    callback.run record errors field = callback.run record others field
  own : ∀ record errors field, ∀ addition ∈ callback.run record errors field, addition.1 = field

/-- The code that a self-contained callback gives a field, if it flags it. -/
def Callback.code? (callback : Callback) (record : Record) (field : String) : Option String :=
  (callback.run record .empty field).getLast?.map Prod.snd

theorem Library.honeypot_selfContained : Library.honeypot.SelfContained := by
  refine ⟨fun _ _ _ _ => rfl, fun record errors field addition added => ?_⟩
  by_cases blank : (record.value field).isBlank = true
  · simp [honeypot, blank] at added
  · simp_all [honeypot]

namespace Pipeline

/-- The name of the first rule for a field that fails. -/
def ruleCode? (pipeline : Pipeline) (record : Record) (field : String) : Option String :=
  ((pipeline.rules.visitors record.keys field).find? fun rule =>
    pipeline.fails record (field, rule)).map BoundRule.name

/-- The code of the first callback for a field that flags it. -/
def callbackCode? (pipeline : Pipeline) (record : Record) (field : String) : Option String :=
  (pipeline.callbacks.visitors record.keys field).findSome? (·.code? record field)

/-- The code that a field takes in a run if it has none before. -/
def newCode? (pipeline : Pipeline) (record : Record) (field : String) : Option String :=
  (pipeline.ruleCode? record field).or (pipeline.callbackCode? record field)

variable (pipeline : Pipeline) (progress : Progress) (field : String)

theorem get?_applyRules
    (named : ∀ field ∈ pipeline.rules.fieldNames, field ∈ progress.record.keys) :
    (pipeline.applyRules progress).errors.get? field =
      (progress.errors.get? field).or (pipeline.ruleCode? progress.record field) := by
  -- The first visit of the field that fails is the first one among the visits of the field.
  have ownVisits : ((pipeline.rules.entryVisits progress.record.keys).find? fun visit =>
      visit.1 = field && pipeline.fails progress.record visit) =
        ((pipeline.rules.entryVisits progress.record.keys).filter (·.1 = field)).find?
          (pipeline.fails progress.record) := by
    rw [List.find?_filter]
    congr 1
    funext visit
    simp
  rw [applyRules, get?_foldl_ruleStep, ownVisits,
    Groups.filter_entryVisits progress.record.nodup_keys named, List.find?_map, Option.map_map]
  rfl

theorem keys_prefix_applyRules :
    progress.errors.keys <+: (pipeline.applyRules progress).errors.keys := by
  have entries := entries_foldl_ruleStep pipeline progress
    (pipeline.rules.entryVisits progress.record.keys)
  rw [applyRules, OrderedMap.keys, OrderedMap.keys, entries, Assoc.keys, Assoc.keys,
    List.map_append]
  exact List.prefix_append _ _

variable (visit : String × Callback)

@[simp]
theorem record_callbackStep : (callbackStep progress visit).record = progress.record := by
  by_cases failed : visit.1 ∈ progress.errors.keys
  · rw [callbackStep_of_failed failed]
  · rw [callbackStep_of_called failed]

theorem get?_callbackStep {visit : String × Callback} (contained : visit.2.SelfContained) :
    (callbackStep progress visit).errors.get? field =
      (progress.errors.get? field).or
        (if visit.1 = field then visit.2.code? progress.record field else none) := by
  by_cases failed : visit.1 ∈ progress.errors.keys
  · rw [callbackStep_of_failed failed]
    by_cases same : visit.1 = field
    · subst same
      obtain ⟨code, found⟩ := Option.isSome_iff_exists.mp (OrderedMap.isSome_get?_iff.mpr failed)
      rw [found, Option.some_or]
    · rw [if_neg same, Option.or_none]
  · have own := contained.own progress.record progress.errors visit.1
    rw [callbackStep_of_called failed, OrderedMap.get?_insertAll_of_own own]
    by_cases same : visit.1 = field
    · subst same
      rw [if_pos rfl, if_pos rfl, OrderedMap.get?_eq_none_iff_not_mem.mpr failed, Option.or_none,
        Option.none_or, Callback.code?, contained.ofRecord _ _ .empty]
    · rw [if_neg (Ne.symm same), if_neg same, Option.or_none]

theorem get?_foldl_callbackStep_of_selfContained {visits : List (String × Callback)}
    (contained : ∀ visit ∈ visits, visit.2.SelfContained) :
    (visits.foldl callbackStep progress).errors.get? field =
      (progress.errors.get? field).or
        ((visits.filter (·.1 = field)).findSome? (·.2.code? progress.record field)) := by
  induction visits generalizing progress with
  | nil => simp
  | cons visit rest restIH =>
      obtain ⟨first, others⟩ := List.forall_mem_cons.mp contained
      rw [List.foldl_cons, restIH _ others, record_callbackStep, get?_callbackStep _ _ first,
        Option.or_assoc, List.filter_cons]
      by_cases same : visit.1 = field
      · rw [if_pos same, if_pos (decide_eq_true same), List.findSome?_cons]
        cases visit.2.code? progress.record field <;> rfl
      · rw [if_neg same, if_neg (by simpa using same), Option.none_or]

theorem get?_applyCallbacks
    (contained : ∀ callback ∈ pipeline.callbacks.members, callback.SelfContained)
    (named : ∀ field ∈ pipeline.callbacks.fieldNames, field ∈ progress.record.keys) :
    (pipeline.applyCallbacks progress).errors.get? field =
      (progress.errors.get? field).or (pipeline.callbackCode? progress.record field) := by
  have visited : ∀ visit ∈ pipeline.callbacks.entryVisits progress.record.keys,
      visit.2.SelfContained := fun visit member =>
    contained _ (Groups.mem_members_of_mem_entryVisits member)
  rw [applyCallbacks, get?_foldl_callbackStep_of_selfContained _ _ visited,
    Groups.filter_entryVisits progress.record.nodup_keys named, List.findSome?_map]
  rfl

theorem keys_prefix_applyCallbacks :
    progress.errors.keys <+: (pipeline.applyCallbacks progress).errors.keys := by
  rw [applyCallbacks, foldl_callbackStep]
  exact progress.errors.keys_prefix_insertAll _

theorem errors_foldl_filterStep (visits : List (String × Filter)) :
    (visits.foldl filterStep progress).errors = progress.errors := by
  induction visits generalizing progress with
  | nil => rfl
  | cons visit rest restIH =>
      rw [List.foldl_cons, restIH]
      rfl

theorem errors_applyFilters (groups : Groups Filter) :
    (applyFilters groups progress).errors = progress.errors := by
  rw [applyFilters]
  induction groups.entries generalizing progress with
  | nil => rfl
  | cons group rest restIH => rw [List.foldl_cons, restIH, filterGroup, errors_foldl_filterStep]

variable (record : Record) (errors : ErrorMap)

theorem errors_prepare : (pipeline.prepare record errors).errors = errors :=
  errors_applyFilters _ _

theorem errors_run_false : (pipeline.run record errors false).errors = errors :=
  errors_prepare pipeline record errors

theorem errors_run_true : (pipeline.run record errors true).errors =
    (pipeline.applyCallbacks (pipeline.applyRules (pipeline.prepare record errors))).errors :=
  errors_applyFilters _ _

theorem run_accepted (submitted : Bool) : (pipeline.run record errors submitted).accepted =
    (submitted && (pipeline.run record errors submitted).errors.isEmpty) := by
  cases submitted <;> rfl

theorem keys_prefix_run (submitted : Bool) :
    errors.keys <+: (pipeline.run record errors submitted).errors.keys := by
  cases submitted with
  | false => exact (errors_run_false pipeline record errors).symm ▸ List.prefix_rfl
  | true =>
      have rules := pipeline.keys_prefix_applyRules (pipeline.prepare record errors)
      rw [errors_prepare] at rules
      rw [errors_run_true]
      exact rules.trans (pipeline.keys_prefix_applyCallbacks _)

theorem rules_named {pipeline : Pipeline} {field : String}
    (target : field ∈ pipeline.rules.fieldNames) : field ∈ pipeline.fieldNames := by
  simp [fieldNames, target]

theorem callbacks_named {pipeline : Pipeline} {field : String}
    (target : field ∈ pipeline.callbacks.fieldNames) : field ∈ pipeline.fieldNames := by
  simp [fieldNames, target]

theorem mem_keys_prepare {pipeline : Pipeline} {record : Record} {errors : ErrorMap}
    {field : String} (configured : field ∈ pipeline.fieldNames) :
    field ∈ (pipeline.prepare record errors).record.keys := by
  rw [keys_prepare]
  exact mem_keys_prepopulate configured

/-- A field that one of its rules turns down has an error after the run, whatever the
callbacks are: it is the error of that rule or one from before. -/
theorem mem_errors_run_of_fails {pipeline : Pipeline} {record : Record} {errors : ErrorMap}
    {field : String} {rule : BoundRule}
    (visitor : rule ∈ pipeline.rules.visitors (pipeline.prepare record errors).record.keys field)
    (failing : pipeline.fails (pipeline.prepare record errors).record (field, rule) = true) :
    field ∈ (pipeline.run record errors true).errors.keys := by
  have coded : (pipeline.ruleCode? (pipeline.prepare record errors).record field).isSome = true := by
    rw [ruleCode?, Option.isSome_map, List.find?_isSome]
    exact ⟨rule, visitor, failing⟩
  have ruled : field ∈ (pipeline.applyRules (pipeline.prepare record errors)).errors.keys := by
    rw [← OrderedMap.isSome_get?_iff, get?_applyRules _ _ _ fun _ target =>
      mem_keys_prepare (rules_named target), Option.isSome_or, coded, Bool.or_true]
  rw [errors_run_true]
  exact (pipeline.keys_prefix_applyCallbacks _).subset ruled

theorem mem_errors_run_of_registered {registry : Registry} {config : Config}
    {registrations : List Registration} {target : Target} {rule : BoundRule} {record : Record}
    {errors : ErrorMap} {field : String}
    (registered : .rule target rule ∈ registrations) (covers : target.covers field = true)
    (present : field ∈
      (((new registry config).registerAll registrations).prepare record errors).record.keys)
    (failing : ((new registry config).registerAll registrations).fails
      (((new registry config).registerAll registrations).prepare record errors).record
        (field, rule) = true) :
    field ∈ (((new registry config).registerAll registrations).run record errors true).errors.keys := by
  refine mem_errors_run_of_fails ?_ failing
  have entry : (target, rule) ∈ registrations.filterMap Registration.rule? :=
    List.mem_filterMap.mpr ⟨_, registered, rfl⟩
  rw [Groups.visitors, if_pos present, rules_registerAll]
  exact Groups.mem_covering_addAll_empty entry covers

/-- With self-contained callbacks, the code of a field after a run is the one it had before,
or else the one that its own rules and callbacks give it on the prepared record. -/
theorem get?_errors_run
    (contained : ∀ callback ∈ pipeline.callbacks.members, callback.SelfContained) :
    (pipeline.run record errors true).errors.get? field =
      (errors.get? field).or
        (pipeline.newCode? (pipeline.prepare record errors).record field) := by
  have same := pipeline.record_applyRules (pipeline.prepare record errors)
  have rules := pipeline.get?_applyRules (pipeline.prepare record errors) field
    fun _ target => mem_keys_prepare (rules_named target)
  have callbacks := pipeline.get?_applyCallbacks
    (pipeline.applyRules (pipeline.prepare record errors)) field contained
    fun _ target => same ▸ mem_keys_prepare (callbacks_named target)
  rw [errors_run_true, callbacks, rules, same, errors_prepare, Option.or_assoc, newCode?]

end Pipeline

end FieldCheck
