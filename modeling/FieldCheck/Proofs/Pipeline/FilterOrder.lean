import FieldCheck.Proofs.Pipeline.RecordOfRun
import Mathlib.Data.List.Basic

namespace FieldCheck

/-! The order in which the filters of a field run.

A stage runs group by group, and a filter joins the group of its target. So the filters of a
field come in two blocks, those registered on the field and those registered on every field.
The target that came up first goes first, and in a block filters keep the order of their
registrations. That is the order of all registrations together unless one of them comes back
to a target after one on the other.
-/

namespace Groups

variable {α : Type} (field : String) (entries : List (Target × α))

/-- What is registered for a field, on the field itself or on every field, in the order of
the registrations. -/
def meaning : List (Target × α) :=
  entries.filter (·.1.covers field)

/-- The same entries target by target: that of the first registration first. -/
def inBlocks : List α :=
  let common := entriesOf .every entries
  let own := entriesOf (.field field) entries
  if ((meaning field entries).map Prod.fst).head? = some .every then common ++ own
  else own ++ common

/-- No registration for a field comes back to a target after one on another target. -/
def Uninterrupted : Prop :=
  ∀ target other, target ≠ other →
    ¬[target, other, target].Sublist ((meaning field entries).map Prod.fst)

variable {field} {entries} {target first other : Target} {entry : Target × α}
variable {rest : List (Target × α)}

/-- The two targets that mean a field, in either order. -/
structure AreTargetsOf (field : String) (first other : Target) : Prop where
  differ : first ≠ other
  covers_iff (target : Target) : target.covers field = true ↔ target = first ∨ target = other

theorem every_field_areTargetsOf (field : String) : AreTargetsOf field .every (.field field) := by
  refine ⟨nofun, fun target => ?_⟩
  cases target <;> simp [Target.covers]

theorem AreTargetsOf.symm (two : AreTargetsOf field first other) :
    AreTargetsOf field other first :=
  ⟨two.differ.symm, fun target => (two.covers_iff target).trans or_comm⟩

theorem covers_of_mem_meaning (member : entry ∈ meaning field entries) :
    entry.1.covers field = true :=
  (List.mem_filter.mp member).2

theorem filter_meaning_first (two : AreTargetsOf field first other) :
    ((meaning field entries).filter (·.1 = first)).map Prod.snd = entriesOf first entries := by
  rw [entriesOf, meaning, List.filter_filter]
  congr 2
  funext entry
  by_cases same : entry.1 = first
  · simp [same, (two.covers_iff first).mpr (.inl rfl)]
  · simp [same]

theorem filter_meaning_other (two : AreTargetsOf field first other) :
    ((meaning field entries).filter fun entry => !decide (entry.1 = first)).map Prod.snd =
      entriesOf other entries := by
  rw [← filter_meaning_first two.symm]
  congr 1
  refine List.filter_congr fun entry member => ?_
  rcases (two.covers_iff _).mp (covers_of_mem_meaning member) with same | same
  · simp [same, two.differ]
  · simp [same, two.differ.symm]

theorem inBlocks_of_nil (none : meaning field entries = []) : inBlocks field entries = [] := by
  have two := every_field_areTargetsOf field
  rw [inBlocks, ← filter_meaning_first two, ← filter_meaning_first two.symm, none]
  rfl

theorem exists_blocks (given : meaning field entries = entry :: rest) :
    ∃ other, AreTargetsOf field entry.1 other ∧
      inBlocks field entries = entriesOf entry.1 entries ++ entriesOf other entries := by
  have two := every_field_areTargetsOf field
  have covers : entry.1.covers field = true :=
    covers_of_mem_meaning (given ▸ List.mem_cons_self)
  rw [inBlocks, given]
  rcases (two.covers_iff entry.1).mp covers with same | same
  · rw [same]
    exact ⟨_, two, by simp [same]⟩
  · rw [same]
    exact ⟨_, two.symm, by simp [same]⟩

theorem flatMap_distinct_of_all_eq {β : Type} [DecidableEq β] {item : β} {items : List β}
    (all : ∀ other ∈ items, other = item) {f : β → List α} (outside : item ∉ items → f item = []) :
    (distinct items).flatMap f = f item := by
  cases items with
  | nil => exact (outside List.not_mem_nil).symm
  | cons head rest =>
      obtain ⟨rfl, others⟩ := List.forall_mem_cons.mp all
      have noOther : (distinct rest).filter (· ≠ head) = [] := by
        rw [List.filter_eq_nil_iff]
        intro other member
        simpa using others other (mem_distinct.mp member)
      rw [distinct, noOther, List.flatMap_singleton]

theorem registeredFor_eq_flatMap : registeredFor field entries =
    (distinct ((meaning field entries).map Prod.fst)).flatMap (entriesOf · entries) := by
  have covers := (every_field_areTargetsOf field).covers_iff
  have filtered : (meaning field entries).map Prod.fst =
      (entries.map Prod.fst).filter (·.covers field) := by
    rw [List.filter_map]
    rfl
  rw [registeredFor, filtered, ← filter_distinct]
  induction distinct (entries.map Prod.fst) with
  | nil => rfl
  | cons target rest restIH =>
      rw [List.flatMap_cons, List.filter_cons, restIH]
      by_cases meant : target = .every ∨ target = .field field
      · rw [if_pos meant, if_pos ((covers target).mpr meant), List.flatMap_cons]
      · rw [if_neg meant, if_neg (mt (covers target).mp meant), List.nil_append]

/-- The groups that mean a field are its two blocks. -/
theorem registeredFor_eq_inBlocks (field : String) (entries : List (Target × α)) :
    registeredFor field entries = inBlocks field entries := by
  rw [registeredFor_eq_flatMap]
  cases given : meaning field entries with
  | nil =>
      rw [inBlocks_of_nil given]
      rfl
  | cons entry rest =>
      obtain ⟨other, two, blocks⟩ := exists_blocks given
      have all : ∀ target ∈ (rest.map Prod.fst).filter (· ≠ entry.1), target = other := by
        intro target member
        obtain ⟨among, differs⟩ := List.mem_filter.mp member
        obtain ⟨later, inRest, rfl⟩ := List.mem_map.mp among
        have covers := covers_of_mem_meaning (given ▸ List.mem_cons_of_mem entry inRest)
        exact ((two.covers_iff later.1).mp covers).resolve_left (of_decide_eq_true differs)
      have outside : other ∉ (rest.map Prod.fst).filter (· ≠ entry.1) →
          entriesOf other entries = [] := by
        intro absent
        rw [← filter_meaning_first two.symm, given, List.map_eq_nil_iff, List.filter_eq_nil_iff]
        intro later member same
        have differs : later.1 ≠ entry.1 := of_decide_eq_true same ▸ two.differ.symm
        have inRest : later ∈ rest :=
          (List.mem_cons.mp member).resolve_left (differs <| congrArg Prod.fst ·)
        refine absent (List.mem_filter.mpr ⟨?_, decide_eq_true two.differ.symm⟩)
        exact List.mem_map.mpr ⟨later, inRest, of_decide_eq_true same⟩
      rw [blocks, List.map_cons, distinct, List.flatMap_cons, filter_distinct,
        flatMap_distinct_of_all_eq all outside]

theorem inBlocks_perm (field : String) (entries : List (Target × α)) :
    (inBlocks field entries).Perm ((meaning field entries).map Prod.snd) := by
  cases given : meaning field entries with
  | nil => rw [inBlocks_of_nil given]; rfl
  | cons entry rest =>
      obtain ⟨other, two, blocks⟩ := exists_blocks given
      rw [blocks, ← filter_meaning_first two, ← filter_meaning_other two, ← List.map_append,
        ← given]
      exact (List.filter_append_perm _ _).map Prod.snd

/-- A list whose first part has a property that its second part lacks. -/
theorem filter_append_filter_not {β : Type} {keep : β → Bool} {items : List β}
    (sorted : items.Pairwise fun earlier later => keep later = true → keep earlier = true) :
    (items.filter keep ++ items.filter fun item => !keep item) = items := by
  induction items with
  | nil => rfl
  | cons item rest restIH =>
      obtain ⟨first, later⟩ := List.pairwise_cons.mp sorted
      cases kept : keep item with
      | true => simp [kept, restIH later]
      | false =>
          have none : ∀ other ∈ rest, keep other = false := fun other member =>
            Bool.eq_false_iff.mpr fun kept' => by simp [first other member kept'] at kept
          have dropped : rest.filter keep = [] := by simpa using none
          have all : (rest.filter fun item => !keep item) = rest := by simpa using none
          simp [kept, dropped, all]

theorem inBlocks_of_uninterrupted (uninterrupted : Uninterrupted field entries) :
    inBlocks field entries = (meaning field entries).map Prod.snd := by
  cases given : meaning field entries with
  | nil => exact inBlocks_of_nil given
  | cons entry rest =>
      obtain ⟨other, two, blocks⟩ := exists_blocks given
      have sorted : (meaning field entries).Pairwise fun earlier later =>
          decide (later.1 = entry.1) = true → decide (earlier.1 = entry.1) = true := by
        rw [given, List.pairwise_cons]
        refine ⟨fun _ _ _ => decide_eq_true rfl, List.pairwise_iff_forall_sublist.mpr ?_⟩
        intro earlier later inRest returns
        rw [decide_eq_true_eq] at returns ⊢
        refine Decidable.byContradiction fun differs => uninterrupted entry.1 earlier.1 ?_ ?_
        · exact Ne.symm differs
        · have comesBack := (inRest.cons_cons entry).map Prod.fst
          rw [List.map_cons, List.map_cons, List.map_cons, returns] at comesBack
          rw [given]
          exact comesBack
      rw [blocks, ← filter_meaning_first two, ← filter_meaning_other two, ← List.map_append,
        filter_append_filter_not sorted, given]

end Groups

/-- The field that a call is made for. A question to a resolver is about no field. -/
def Event.field? : Event → Option String
  | .filtered _ _ field _ | .checked _ _ field _ | .calledBack _ _ field => some field
  | .asked _ => none

/-- The calls of filters that are applied one after the other to the value of a field: each
is called on every scalar of what those before it have left. -/
def Filter.calls (field : String) : List Filter → Value → List Event
  | [], _ => []
  | filter :: rest, value =>
      value.scalars.map (.filtered filter.name filter.origin field) ++
        calls field rest (value.mapScalars filter.apply)

theorem Filter.calls_append (field : String) (earlier later : List Filter) (value : Value) :
    calls field (earlier ++ later) value =
      calls field earlier value ++ calls field later (applyAll earlier value) := by
  induction earlier generalizing value with
  | nil => rfl
  | cons filter rest restIH =>
      rw [List.cons_append, calls, restIH, calls, List.append_assoc]
      rfl

/-- Between two moments of a run, just these filters were called for a field, in this order,
and the field has the value that they give. -/
def Filtered (field : String) (filters : List Filter) (before after : Progress) : Prop :=
  ∃ value calls, before.record.get? field = some value ∧
    after.record.get? field = some (Filter.applyAll filters value) ∧
    after.trace = before.trace ++ calls ∧
    calls.filter (·.field? = some field) = Filter.calls field filters value

variable {field : String}

theorem Filtered.trans {earlier later : List Filter} {before middle after : Progress}
    (first : Filtered field earlier before middle) (second : Filtered field later middle after) :
    Filtered field (earlier ++ later) before after := by
  obtain ⟨value, calls, given, left, trace, own⟩ := first
  obtain ⟨value', calls', given', left', trace', own'⟩ := second
  obtain rfl : Filter.applyAll earlier value = value' := Option.some.inj (left.symm.trans given')
  refine ⟨value, calls ++ calls', given, ?_, ?_, ?_⟩
  · rw [left', Filter.applyAll_append]
  · rw [trace', trace, List.append_assoc]
  · rw [List.filter_append, own, own', Filter.calls_append]

namespace Pipeline

theorem filtered_filterStep {progress : Progress} (visit : String × Filter)
    (present : field ∈ progress.record.keys) :
    Filtered field (if visit.1 = field then [visit.2] else []) progress
      (filterStep progress visit) := by
  obtain ⟨value, given⟩ :=
    Option.isSome_iff_exists.mp (OrderedMap.isSome_get?_iff.mpr present)
  obtain ⟨other, filter⟩ := visit
  have next := get?_filterStep field progress (other, filter)
  refine ⟨value, (progress.record.value other).scalars.map
    (.filtered filter.name filter.origin other), given, ?_, rfl, ?_⟩
  · by_cases same : other = field
    · subst same
      rw [next, if_pos rfl, if_pos rfl, Record.value, given]
      rfl
    · rw [next, if_neg (Ne.symm same), if_neg same, given]
      rfl
  · by_cases same : other = field
    · subst same
      rw [if_pos rfl, Record.value, given, List.filter_eq_self.mpr (by simp [Event.field?])]
      exact (List.append_nil _).symm
    · rw [if_neg same, List.filter_eq_nil_iff.mpr (by simp [Event.field?, same])]
      rfl

theorem filtered_foldl_filterStep {progress : Progress} (visits : List (String × Filter))
    (present : field ∈ progress.record.keys) :
    Filtered field ((visits.filter (·.1 = field)).map Prod.snd) progress
      (visits.foldl filterStep progress) := by
  induction visits generalizing progress with
  | nil =>
      obtain ⟨value, given⟩ :=
        Option.isSome_iff_exists.mp (OrderedMap.isSome_get?_iff.mpr present)
      exact ⟨value, [], given, given, (List.append_nil _).symm, rfl⟩
  | cons visit rest restIH =>
      have first := filtered_filterStep visit present
      obtain ⟨_, _, _, left, _, _⟩ := first
      have later := restIH (OrderedMap.isSome_get?_iff.mp (Option.isSome_of_eq_some left))
      have whole := (filtered_filterStep visit present).trans later
      by_cases same : visit.1 = field
      · simpa [same] using whole
      · simpa [same] using whole

theorem filtered_applyFilters {groups : Groups Filter} {progress : Progress}
    (named : ∀ field ∈ groups.fieldNames, field ∈ progress.record.keys)
    (present : field ∈ progress.record.keys) :
    Filtered field (groups.covering field) progress (applyFilters groups progress) := by
  rw [applyFilters_eq_foldl_fieldVisits named]
  have whole := filtered_foldl_filterStep (groups.fieldVisits progress.record.keys) present
  rw [Groups.filter_fieldVisits groups progress.record.nodup_keys present, List.map_map] at whole
  simpa [Function.comp_def] using whole

/-- The filters of a field run in their order, target by target: in each stage all those
registered on the target that came up first, on the field or on every field, run before those
registered on the other. No other filter is called for the field, none of these is left out,
and they run in the order of their registrations if none of these comes back to a target
after one on the other. -/
theorem filters_run_in_blocks (registry : Registry) (config : Config)
    (registrations : List Registration) (record : Record) (errors : ErrorMap) (field : String)
    (present : field ∈ record.keys ∨ field ∈ Registration.fieldNames registrations) :
    let pipeline := (new registry config).registerAll registrations
    let filters (stage : FilterStage) := registrations.filterMap (Registration.filter? stage)
    let prepared := pipeline.prepare record errors
    Filtered field (Groups.inBlocks field (filters .pre)) ⟨pipeline.prepopulate record, errors, []⟩
      prepared ∧
    Filtered field (Groups.inBlocks field (filters .post))
      (pipeline.applyCallbacks (pipeline.applyRules prepared)) (pipeline.judge prepared) ∧
    ∀ stage, (Groups.inBlocks field (filters stage)).Perm
        ((Groups.meaning field (filters stage)).map Prod.snd) ∧
      (Groups.Uninterrupted field (filters stage) →
        Groups.inBlocks field (filters stage) =
          (Groups.meaning field (filters stage)).map Prod.snd) := by
  intro pipeline filters prepared
  have filledIn : field ∈ (pipeline.prepopulate record).keys := by
    rw [keys_prepopulate, List.mem_append, List.mem_filter, fieldNames_registerAll_new]
    by_cases given : field ∈ record.keys
    · exact .inl given
    · exact .inr ⟨present.resolve_left given, decide_eq_true given⟩
  have pre : pipeline.preFilters.covering field = Groups.inBlocks field (filters .pre) := by
    rw [preFilters_registerAll, ← Groups.registeredFor_eq_inBlocks]
    exact Groups.covering_addAll_empty _ field
  have post : pipeline.postFilters.covering field = Groups.inBlocks field (filters .post) := by
    rw [postFilters_registerAll, ← Groups.registeredFor_eq_inBlocks]
    exact Groups.covering_addAll_empty _ field
  have judged : field ∈ (pipeline.applyCallbacks (pipeline.applyRules prepared)).record.keys := by
    rw [record_applyCallbacks, record_applyRules, keys_prepare]
    exact filledIn
  rw [← pre, ← post]
  exact ⟨filtered_applyFilters
      (fun _ target => mem_keys_prepopulate (preFilters_named target)) filledIn,
    filtered_applyFilters (fun _ target => postFilters_present pipeline record errors target)
      judged,
    fun stage => ⟨Groups.inBlocks_perm field _, Groups.inBlocks_of_uninterrupted⟩⟩

/-- A filter for every field that was registered before the one for the name alone. -/
theorem filters_of_name_run_in_blocks :
    let trim : Filter := ⟨"trim", .library, Filters.trim⟩
    let lower : Filter := ⟨"lowercase", .library, Filters.lowerCase⟩
    let capital : Filter := ⟨"ucfirst", .library, Filters.capitalize⟩
    let registrations : List Registration := [.filter .pre .every trim,
      .filter .post (.field "city") lower, .filter .pre .every lower,
      .filter .pre (.field "name") capital]
    let record : Record := .ofList [("name", .text " ANN")]
    let pipeline := (new .builtin .standard).registerAll registrations
    "name" ∈ record.keys ∧ Groups.Uninterrupted "name" [(.every, trim), (.every, lower),
      (.field "name", capital)] ∧
    Filtered "name" [trim, lower, capital] ⟨pipeline.prepopulate record, .empty, []⟩
      (pipeline.prepare record .empty) := by
  intro trim lower capital registrations record pipeline
  have present : "name" ∈ record.keys := List.mem_cons_self
  have uninterrupted : Groups.Uninterrupted "name" [(.every, trim), (.every, lower),
      (.field "name", capital)] := by
    intro target other _ returns
    have same : [target, other, target] = [.every, .every, .field "name"] :=
      returns.eq_of_length rfl
    cases same
  obtain ⟨pre, -, order⟩ :=
    filters_run_in_blocks .builtin .standard registrations record .empty "name" (.inl present)
  refine ⟨present, uninterrupted, ?_⟩
  rw [(order .pre).2 uninterrupted] at pre
  exact pre

/-- A filter that comes back to the name after one for every field runs before that one, so
the name ends in lower case. In the order of the registrations it would be capitalized. -/
theorem filter_joins_block_of_its_target :
    let trim : Filter := ⟨"trim", .library, Filters.trim⟩
    let lower : Filter := ⟨"lowercase", .library, Filters.lowerCase⟩
    let capital : Filter := ⟨"ucfirst", .library, Filters.capitalize⟩
    let registrations : List Registration := [.filter .pre (.field "name") trim,
      .filter .pre .every lower, .filter .pre (.field "name") capital]
    let record : Record := .ofList [("name", .text " ANN")]
    let prepared := ((new .builtin .standard).registerAll registrations).prepare record .empty
    prepared.record.get? "name" = some (.text "ann") ∧
      Filter.applyAll [trim, lower, capital] (.text " ANN") = .text "Ann" :=
  ⟨rfl, rfl⟩

end Pipeline

end FieldCheck
