import FieldCheck.Proofs.Data.KeyOrder

namespace FieldCheck

namespace Groups

variable {α : Type}

def addAll (groups : Groups α) (entries : List (Target × α)) : Groups α :=
  entries.foldl (fun groups entry => groups.add entry.1 entry.2) groups

def entriesOf (target : Target) (entries : List (Target × α)) : List α :=
  (entries.filter (·.1 = target)).map Prod.snd

theorem keys_addAll (groups : Groups α) (entries : List (Target × α)) :
    (groups.addAll entries).keys = (entries.map Prod.fst).foldl addNew groups.keys := by
  induction entries generalizing groups with
  | nil => rfl
  | cons entry rest restIH =>
      rw [addAll, List.foldl_cons, ← addAll, restIH, add, OrderedMap.keys_insert_eq_addNew]
      rfl

theorem getD_get?_addAll (groups : Groups α) (entries : List (Target × α)) (target : Target) :
    ((groups.addAll entries).get? target).getD [] =
      (groups.get? target).getD [] ++ entriesOf target entries := by
  induction entries generalizing groups with
  | nil => simp [addAll, entriesOf]
  | cons entry rest restIH =>
      rw [addAll, List.foldl_cons, ← addAll, restIH, add, OrderedMap.get?_insert]
      by_cases same : entry.1 = target
      · simp [entriesOf, same]
      · simp [entriesOf, same, Ne.symm same]

theorem keys_addAll_empty (entries : List (Target × α)) :
    (addAll .empty entries).keys = distinct (entries.map Prod.fst) := by
  rw [keys_addAll, OrderedMap.keys_empty, foldl_addNew_nil]

/-- Groups stand in the order of the first registration of their target. -/
theorem entries_addAll_empty (entries : List (Target × α)) :
    (addAll .empty entries).entries =
      (distinct (entries.map Prod.fst)).map fun target => (target, entriesOf target entries) := by
  rw [OrderedMap.entries_eq_map_keys [], keys_addAll_empty]
  apply List.map_congr_left
  intro target _
  rw [getD_get?_addAll]
  rfl

end Groups

/-- One registration, with the names in it looked up. -/
inductive Registration where
  | resolver (resolver : Resolver)
  | emptyRule (rule : String)
  | shape (field : String) (shape : Shape)
  | filter (stage : FilterStage) (target : Target) (filter : Filter)
  | rule (target : Target) (rule : BoundRule)
  | callback (target : Target) (callback : Callback)

namespace Registration

def filter? (stage : FilterStage) : Registration → Option (Target × Filter)
  | .filter other target entry => if other = stage then some (target, entry) else none
  | _ => none

def rule? : Registration → Option (Target × BoundRule)
  | .rule target entry => some (target, entry)
  | _ => none

def callback? : Registration → Option (Target × Callback)
  | .callback target entry => some (target, entry)
  | _ => none

def shape? : Registration → Option (String × Shape)
  | .shape field declared => some (field, declared)
  | _ => none

/-- The field that a registration names. What is registered on every field names none. -/
def field? : Registration → Option String
  | .shape field _ => some field
  | .filter _ target _ | .rule target _ | .callback target _ => target.name?
  | .resolver _ | .emptyRule _ => none

/-- The fields that a series of registrations names, each once: stage by stage, then the
fields with a declared shape. -/
def fieldNames (registrations : List Registration) : List String :=
  distinct ((registrations.filterMap (filter? .pre)).filterMap (·.1.name?) ++
    (registrations.filterMap rule?).filterMap (·.1.name?) ++
    (registrations.filterMap callback?).filterMap (·.1.name?) ++
    (registrations.filterMap (filter? .post)).filterMap (·.1.name?) ++
    (registrations.filterMap shape?).map Prod.fst)

theorem mem_fieldNames {registrations : List Registration} {field : String} :
    field ∈ fieldNames registrations ↔
      ∃ registration ∈ registrations, registration.field? = some field := by
  simp only [fieldNames, mem_distinct, List.mem_append, List.mem_filterMap, List.mem_map]
  constructor
  · rintro ((((⟨entry, found, named⟩ | ⟨entry, found, named⟩) | ⟨entry, found, named⟩) |
      ⟨entry, found, named⟩) | ⟨entry, found, named⟩)
    all_goals
      obtain ⟨registration, member, selected⟩ := found
      refine ⟨registration, member, ?_⟩
      cases registration <;> grind [filter?, rule?, callback?, shape?, field?]
  · rintro ⟨registration, member, named⟩
    cases registration with
    | resolver | emptyRule => cases named
    | shape other declared => exact .inr ⟨_, ⟨_, member, rfl⟩, Option.some.inj named⟩
    | rule target entry => exact .inl (.inl (.inl (.inr ⟨_, ⟨_, member, rfl⟩, named⟩)))
    | callback target entry => exact .inl (.inl (.inr ⟨_, ⟨_, member, rfl⟩, named⟩))
    | filter stage target entry =>
        cases stage with
        | pre => exact .inl (.inl (.inl (.inl ⟨_, ⟨_, member, rfl⟩, named⟩)))
        | post => exact .inl (.inr ⟨_, ⟨_, member, rfl⟩, named⟩)

/-- The last shape declared for a field. A field without one is a scalar. -/
def shapeOf (registrations : List Registration) (field : String) : Shape :=
  (((registrations.filterMap shape?).filter (·.1 = field)).getLast?.map Prod.snd).getD .scalar

/-- A declaration stands unless the field is declared otherwise after it. -/
theorem shapeOf_of_last_declaration {earlier later : List Registration} {field : String}
    {declared : Shape} (stands : ∀ other, .shape field other ∈ later → other = declared) :
    shapeOf (earlier ++ .shape field declared :: later) field = declared := by
  have split : ((earlier ++ .shape field declared :: later).filterMap shape?).filter
      (·.1 = field) = (earlier.filterMap shape?).filter (·.1 = field) ++
        (field, declared) :: (later.filterMap shape?).filter (·.1 = field) := by
    simp [shape?]
  rw [shapeOf, split, List.getLast?_append, List.getLast?_cons]
  cases last : ((later.filterMap shape?).filter (·.1 = field)).getLast? with
  | none => rfl
  | some entry =>
      obtain ⟨declaredLater, own⟩ := List.mem_filter.mp (List.mem_of_getLast? last)
      obtain ⟨registration, member, shaped⟩ := List.mem_filterMap.mp declaredLater
      cases registration with
      | shape other shape =>
          cases shaped
          obtain rfl := of_decide_eq_true own
          exact stands shape member
      | _ => cases shaped

end Registration

namespace Pipeline

def register (pipeline : Pipeline) : Registration → Pipeline
  | .resolver resolver => pipeline.setResolver resolver
  | .emptyRule rule => pipeline.allowEmpty rule
  | .shape field shape => pipeline.declare field shape
  | .filter stage target filter => pipeline.addFilter stage target filter
  | .rule target rule => pipeline.addBoundRule target rule
  | .callback target callback => pipeline.addCallback target callback

def registerAll (pipeline : Pipeline) (registrations : List Registration) : Pipeline :=
  registrations.foldl register pipeline

theorem registerAll_append (pipeline : Pipeline) (earlier later : List Registration) :
    pipeline.registerAll (earlier ++ later) = (pipeline.registerAll earlier).registerAll later :=
  List.foldl_append

/-- If each registration adds to one part of a pipeline what `select` finds in it, then
a series adds all that `select` finds in it, in order. -/
theorem registerAll_view {β γ : Type} (view : Pipeline → β) (insert : β → γ → β)
    (select : Registration → Option γ)
    (step : ∀ pipeline registration, view (register pipeline registration) =
      (select registration).toList.foldl insert (view pipeline))
    (pipeline : Pipeline) (registrations : List Registration) :
    view (pipeline.registerAll registrations) =
      (registrations.filterMap select).foldl insert (view pipeline) := by
  induction registrations generalizing pipeline with
  | nil => rfl
  | cons registration rest restIH =>
      rw [registerAll, List.foldl_cons, ← registerAll, restIH, step, List.filterMap_cons]
      cases select registration <;> rfl

/-- What adding a rule from a registry comes to: the shape that the rule declares, if it is
added to a single field, and then the rule. -/
def ruleRegistrations (target : Target) (spec : RuleSpec) (rule : Rule) : List Registration :=
  (match rule.shape, target.name? with
    | some shape, some field => [.shape field shape]
    | _, _ => []) ++
    [.rule target ⟨spec.name, spec.arguments, rule.origin, rule.check⟩]

theorem mem_ruleRegistrations (target : Target) (spec : RuleSpec) (rule : Rule) :
    .rule target ⟨spec.name, spec.arguments, rule.origin, rule.check⟩ ∈
      ruleRegistrations target spec rule :=
  List.mem_append_right _ List.mem_cons_self

theorem addRule_of_accepts {pipeline : Pipeline} {rule : Rule} (target : Target)
    (spec : RuleSpec) (resolved : pipeline.registry.rule spec.name = .ok rule)
    (accepted : rule.contract.accepts spec.arguments = true) :
    pipeline.addRule target spec =
      .ok (pipeline.registerAll (ruleRegistrations target spec rule)) := by
  have faultless : rule.contract.fault? spec.arguments = none :=
    Option.isNone_iff_eq_none.mp accepted
  rw [addRule, resolved]
  simp only [faultless, declareShape, ruleRegistrations]
  cases rule.shape with
  | none => rfl
  | some shape => cases target.name? <;> rfl

variable (pipeline : Pipeline) (registrations : List Registration)

theorem registry_registerAll : (pipeline.registerAll registrations).registry =
    pipeline.registry := by
  induction registrations generalizing pipeline with
  | nil => rfl
  | cons registration rest restIH =>
      rw [registerAll, List.foldl_cons, ← registerAll, restIH]
      cases registration with
      | filter stage => cases stage <;> rfl
      | _ => rfl

/-- A rule from the registry is added whatever was registered before, and then counts as one
more part of the series. -/
theorem addRule_after (registry : Registry) (config : Config) (earlier : List Registration)
    {rule : Rule} (target : Target) (spec : RuleSpec)
    (resolved : registry.rule spec.name = .ok rule)
    (accepted : rule.contract.accepts spec.arguments = true) :
    ∃ middle, ((new registry config).registerAll earlier).addRule target spec = .ok middle ∧
      ∀ later, middle.registerAll later = (new registry config).registerAll
        (earlier ++ (ruleRegistrations target spec rule ++ later)) := by
  have known : ((new registry config).registerAll earlier).registry.rule spec.name =
      .ok rule := by
    rw [registry_registerAll]
    exact resolved
  refine ⟨_, addRule_of_accepts target spec known accepted, fun later => ?_⟩
  rw [registerAll_append, registerAll_append]

theorem preFilters_registerAll : (pipeline.registerAll registrations).preFilters =
    pipeline.preFilters.addAll (registrations.filterMap (Registration.filter? .pre)) := by
  refine registerAll_view preFilters _ _ ?_ pipeline registrations
  intro pipeline registration
  cases registration with
  | filter stage => cases stage <;> rfl
  | _ => rfl

theorem postFilters_registerAll : (pipeline.registerAll registrations).postFilters =
    pipeline.postFilters.addAll (registrations.filterMap (Registration.filter? .post)) := by
  refine registerAll_view postFilters _ _ ?_ pipeline registrations
  intro pipeline registration
  cases registration with
  | filter stage => cases stage <;> rfl
  | _ => rfl

theorem rules_registerAll : (pipeline.registerAll registrations).rules =
    pipeline.rules.addAll (registrations.filterMap Registration.rule?) := by
  refine registerAll_view rules _ _ ?_ pipeline registrations
  intro pipeline registration
  cases registration with
  | filter stage => cases stage <;> rfl
  | _ => rfl

theorem callbacks_registerAll : (pipeline.registerAll registrations).callbacks =
    pipeline.callbacks.addAll (registrations.filterMap Registration.callback?) := by
  refine registerAll_view callbacks _ _ ?_ pipeline registrations
  intro pipeline registration
  cases registration with
  | filter stage => cases stage <;> rfl
  | _ => rfl

theorem shapes_registerAll : (pipeline.registerAll registrations).shapes =
    pipeline.shapes.insertAll (registrations.filterMap Registration.shape?) := by
  refine registerAll_view shapes _ _ ?_ pipeline registrations
  intro pipeline registration
  cases registration with
  | filter stage => cases stage <;> rfl
  | _ => rfl

theorem shape_registerAll_new (registry : Registry) (config : Config) (field : String) :
    ((new registry config).registerAll registrations).shape field =
      Registration.shapeOf registrations field := by
  rw [shape, shapes_registerAll, OrderedMap.get?_insertAll]
  exact congrArg (Option.getD · Shape.scalar) (Option.or_none)

theorem fieldNames_registerAll_new (registry : Registry) (config : Config) :
    ((new registry config).registerAll registrations).fieldNames =
      Registration.fieldNames registrations := by
  have named {α : Type} (entries : List (Target × α)) :
      distinct (Groups.addAll .empty entries).fieldNames =
        distinct (entries.filterMap (·.1.name?)) := by
    rw [Groups.fieldNames, Groups.keys_addAll_empty, distinct_filterMap_distinct,
      List.filterMap_map]
    rfl
  have declared (entries : List (String × Shape)) :
      distinct (OrderedMap.insertAll .empty entries).keys = distinct (entries.map Prod.fst) := by
    rw [← OrderedMap.ofList, OrderedMap.keys_ofList, distinct_distinct]
  rw [fieldNames, preFilters_registerAll, rules_registerAll, callbacks_registerAll,
    postFilters_registerAll, shapes_registerAll, Registration.fieldNames]
  exact distinct_append_congr (distinct_append_congr (distinct_append_congr
    (distinct_append_congr (named _) (named _)) (named _)) (named _)) (declared _)

end Pipeline

end FieldCheck
