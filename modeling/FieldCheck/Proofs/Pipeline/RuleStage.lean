import FieldCheck.Proofs.Pipeline.Visits
import Mathlib.Data.List.Induction

namespace FieldCheck

/-! The rule stage, field by field.

The visits of all fields share one error map, but a visit looks up only its own field
there. So the code of a field is that of its first failing visit, and the rules are invoked
on it up to that visit, whatever happens on other fields.
-/

namespace Pipeline

def verdict (pipeline : Pipeline) (record : Record) (visit : String × BoundRule) : Verdict :=
  visit.2.check (record.value visit.1) visit.2.arguments (pipeline.context record)

/-- Whether the rule of a visit has something to judge and turns it down. -/
def fails (pipeline : Pipeline) (record : Record) (visit : String × BoundRule) : Bool :=
  pipeline.applicable record visit.1 visit.2 && !(pipeline.verdict record visit).passed

/-- What is recorded of a rule that is invoked: the call, and the domains asked about. -/
def checkEvents (pipeline : Pipeline) (record : Record) (visit : String × BoundRule) :
    List Event :=
  .checked visit.2.name visit.2.origin visit.1 (record.value visit.1) ::
    (pipeline.verdict record visit).asked.map .asked

/-- What a failing visit records: its field, with the name of the rule as the code. -/
def failureEntry (visit : String × BoundRule) : String × String :=
  (visit.1, visit.2.name)

/-- The position of the first visit at which the rule turns a field down. -/
def firstFailing? (pipeline : Pipeline) (record : Record) (visits : List (String × BoundRule))
    (field : String) : Option Nat :=
  visits.findIdx? fun visit => visit.1 = field && pipeline.fails record visit

/-- Whether a visit, given with its position, is the first at which the rule turns its field
down. A field that has an error at the start does not fail again. -/
def isFirstFailing (pipeline : Pipeline) (start : Progress)
    (visits : List (String × BoundRule)) : (String × BoundRule) × Nat → Bool
  | ((field, _), position) =>
      field ∉ start.errors.keys &&
        pipeline.firstFailing? start.record visits field = some position

/-- Whether the rule of a visit, given with its position, is invoked: its field has no error
at the start, there is something to judge, and the visit does not come behind the first
failing one of the field. -/
def isInvoked (pipeline : Pipeline) (start : Progress)
    (visits : List (String × BoundRule)) : (String × BoundRule) × Nat → Bool
  | ((field, rule), position) =>
      field ∉ start.errors.keys && pipeline.applicable start.record field rule &&
        (pipeline.firstFailing? start.record visits field).all (position ≤ ·)

variable (pipeline : Pipeline) (progress : Progress) (visit : String × BoundRule)
variable (visits : List (String × BoundRule)) (field : String)

theorem applicable_of_fails {pipeline : Pipeline} {record : Record}
    {visit : String × BoundRule} (failing : pipeline.fails record visit = true) :
    pipeline.applicable record visit.1 visit.2 = true :=
  (Bool.and_eq_true_iff.mp failing).1

theorem ruleStep_of_passed_over
    (skipped : ¬(visit.1 ∉ progress.errors.keys ∧
      pipeline.applicable progress.record visit.1 visit.2 = true)) :
    pipeline.ruleStep progress visit = progress := by
  have passes : (progress.errors.contains visit.1 ||
      !pipeline.applicable progress.record visit.1 visit.2) = true := by
    rw [Bool.or_eq_true, OrderedMap.contains_iff, Bool.not_eq_true']
    by_cases failed : visit.1 ∈ progress.errors.keys
    · exact .inl failed
    · exact .inr (Bool.eq_false_iff.mpr fun applies => skipped ⟨failed, applies⟩)
  exact if_pos passes

theorem ruleStep_of_invoked (fresh : visit.1 ∉ progress.errors.keys)
    (applies : pipeline.applicable progress.record visit.1 visit.2 = true) :
    pipeline.ruleStep progress visit =
      { progress with
        errors := if pipeline.fails progress.record visit then
          progress.errors.insert visit.1 visit.2.name else progress.errors
        trace := progress.trace ++ pipeline.checkEvents progress.record visit } := by
  have absent : progress.errors.contains visit.1 = false := by
    rw [Bool.eq_false_iff, ne_eq, OrderedMap.contains_iff]
    exact fresh
  have asked : (progress.errors.contains visit.1 ||
      !pipeline.applicable progress.record visit.1 visit.2) = false := by
    rw [absent, applies]
    rfl
  have verdictDecides : pipeline.fails progress.record visit =
      !(pipeline.verdict progress.record visit).passed := by
    rw [fails, applies, Bool.true_and]
  refine (if_neg (Bool.eq_false_iff.mp asked)).trans ?_
  rw [verdictDecides]
  cases passed : (pipeline.verdict progress.record visit).passed <;>
    simp_all [checkEvents, verdict]

@[simp]
theorem record_ruleStep : (pipeline.ruleStep progress visit).record = progress.record := by
  by_cases asks : visit.1 ∉ progress.errors.keys ∧
      pipeline.applicable progress.record visit.1 visit.2 = true
  · rw [ruleStep_of_invoked pipeline progress visit asks.1 asks.2]
  · rw [ruleStep_of_passed_over pipeline progress visit asks]

theorem errors_ruleStep : (pipeline.ruleStep progress visit).errors =
    if visit.1 ∉ progress.errors.keys ∧ pipeline.fails progress.record visit = true then
      progress.errors.insert visit.1 visit.2.name
    else progress.errors := by
  by_cases asks : visit.1 ∉ progress.errors.keys ∧
      pipeline.applicable progress.record visit.1 visit.2 = true
  · rw [ruleStep_of_invoked pipeline progress visit asks.1 asks.2]
    simp [asks.1]
  · rw [ruleStep_of_passed_over pipeline progress visit asks, if_neg]
    rintro ⟨fresh, failing⟩
    exact asks ⟨fresh, applicable_of_fails failing⟩

theorem get?_ruleStep : (pipeline.ruleStep progress visit).errors.get? field =
    (progress.errors.get? field).or
      (if visit.1 = field ∧ pipeline.fails progress.record visit = true then
        some visit.2.name else none) := by
  rw [errors_ruleStep]
  by_cases same : visit.1 = field
  · subst same
    by_cases failed : visit.1 ∈ progress.errors.keys
    · obtain ⟨code, found⟩ := Option.isSome_iff_exists.mp (OrderedMap.isSome_get?_iff.mpr failed)
      simp [failed, found]
    · have absent := OrderedMap.get?_eq_none_iff_not_mem.mpr failed
      by_cases failing : pipeline.fails progress.record visit = true
      · simp [failed, failing, absent, OrderedMap.get?_insert]
      · simp [failing, absent]
  · by_cases records : visit.1 ∉ progress.errors.keys ∧ pipeline.fails progress.record visit = true
    · rw [if_pos records, OrderedMap.get?_insert, if_neg (Ne.symm same)]
      simp [same]
    · rw [if_neg records]
      simp [same]

theorem entries_ruleStep : (pipeline.ruleStep progress visit).errors.entries =
    progress.errors.entries ++
      if visit.1 ∉ progress.errors.keys ∧ pipeline.fails progress.record visit = true then
        [failureEntry visit]
      else [] := by
  rw [errors_ruleStep]
  split
  · rename_i records
    exact OrderedMap.entries_insert_of_not_mem _ records.1
  · exact (List.append_nil _).symm

theorem trace_ruleStep : (pipeline.ruleStep progress visit).trace = progress.trace ++
    if visit.1 ∉ progress.errors.keys ∧
        pipeline.applicable progress.record visit.1 visit.2 = true then
      pipeline.checkEvents progress.record visit
    else [] := by
  by_cases asks : visit.1 ∉ progress.errors.keys ∧
      pipeline.applicable progress.record visit.1 visit.2 = true
  · rw [ruleStep_of_invoked pipeline progress visit asks.1 asks.2, if_pos asks]
  · rw [ruleStep_of_passed_over pipeline progress visit asks, if_neg asks, List.append_nil]

@[simp]
theorem record_foldl_ruleStep : (visits.foldl pipeline.ruleStep progress).record =
    progress.record := by
  induction visits generalizing progress with
  | nil => rfl
  | cons visit rest restIH => rw [List.foldl_cons, restIH, record_ruleStep]

/-- The code of a field comes from its own visits alone. -/
theorem get?_foldl_ruleStep : (visits.foldl pipeline.ruleStep progress).errors.get? field =
    (progress.errors.get? field).or
      ((visits.find? fun visit => visit.1 = field && pipeline.fails progress.record visit).map
        (·.2.name)) := by
  induction visits generalizing progress with
  | nil => simp
  | cons visit rest restIH =>
      rw [List.foldl_cons, restIH, record_ruleStep, get?_ruleStep, List.find?_cons]
      by_cases decides : visit.1 = field ∧ pipeline.fails progress.record visit = true
      · have selected : (visit.1 = field && pipeline.fails progress.record visit) = true := by
          simpa using decides
        rw [if_pos decides, selected, Option.or_assoc]
        rfl
      · have passedOver : (visit.1 = field && pipeline.fails progress.record visit) = false := by
          rw [Bool.eq_false_iff]
          simpa using decides
        rw [if_neg decides, passedOver, Option.or_none]

theorem not_mem_keys_foldl_ruleStep :
    field ∉ (visits.foldl pipeline.ruleStep progress).errors.keys ↔
      field ∉ progress.errors.keys ∧
        pipeline.firstFailing? progress.record visits field = none := by
  rw [← OrderedMap.get?_eq_none_iff_not_mem, ← OrderedMap.get?_eq_none_iff_not_mem,
    get?_foldl_ruleStep, Option.or_eq_none_iff, Option.map_eq_none_iff, firstFailing?,
    List.findIdx?_eq_none_iff, List.find?_eq_none]
  simp only [Bool.not_eq_true]

theorem firstFailing?_concat (record : Record) :
    pipeline.firstFailing? record (visits ++ [visit]) field =
      (pipeline.firstFailing? record visits field).or
        (if visit.1 = field ∧ pipeline.fails record visit = true then some visits.length
          else none) := by
  rw [firstFailing?, firstFailing?, List.findIdx?_append]
  congr 1
  by_cases failing : visit.1 = field ∧ pipeline.fails record visit = true
  · simp [failing]
  · simp [failing, List.findIdx?_cons]

theorem lt_length_of_firstFailing? {pipeline : Pipeline} {record : Record}
    {visits : List (String × BoundRule)} {field : String} {position : Nat}
    (found : pipeline.firstFailing? record visits field = some position) :
    position < visits.length := by
  obtain ⟨inside, -⟩ := List.findIdx?_eq_some_iff_getElem.mp found
  exact inside

/-- Which visits are first failing does not depend on those that come later. -/
theorem isFirstFailing_concat (place : (String × BoundRule) × Nat)
    (inside : place.2 < visits.length) :
    pipeline.isFirstFailing progress (visits ++ [visit]) place =
      pipeline.isFirstFailing progress visits place := by
  obtain ⟨⟨field, rule⟩, position⟩ := place
  have apart : visits.length ≠ position := Nat.ne_of_gt inside
  rw [isFirstFailing, isFirstFailing, firstFailing?_concat]
  cases pipeline.firstFailing? progress.record visits field with
  | some first => rw [Option.some_or]
  | none =>
      rw [Option.none_or]
      split
      · simp [apart]
      · rfl

theorem isInvoked_concat (place : (String × BoundRule) × Nat)
    (inside : place.2 < visits.length) :
    pipeline.isInvoked progress (visits ++ [visit]) place =
      pipeline.isInvoked progress visits place := by
  obtain ⟨⟨field, rule⟩, position⟩ := place
  have before : position ≤ visits.length := Nat.le_of_lt inside
  rw [isInvoked, isInvoked, firstFailing?_concat]
  cases pipeline.firstFailing? progress.record visits field with
  | some first => rw [Option.some_or]
  | none =>
      rw [Option.none_or]
      split
      · simp [before]
      · rfl

/-- The last visit finds the errors that the visits before it left. -/
theorem isFirstFailing_last :
    pipeline.isFirstFailing progress (visits ++ [visit]) (visit, visits.length) = true ↔
      visit.1 ∉ (visits.foldl pipeline.ruleStep progress).errors.keys ∧
        pipeline.fails progress.record visit = true := by
  rw [not_mem_keys_foldl_ruleStep, isFirstFailing, firstFailing?_concat]
  cases found : pipeline.firstFailing? progress.record visits visit.1 with
  | some first =>
      have apart : first ≠ visits.length := Nat.ne_of_lt (lt_length_of_firstFailing? found)
      simp [apart]
  | none => simp

theorem isInvoked_last :
    pipeline.isInvoked progress (visits ++ [visit]) (visit, visits.length) = true ↔
      visit.1 ∉ (visits.foldl pipeline.ruleStep progress).errors.keys ∧
        pipeline.applicable progress.record visit.1 visit.2 = true := by
  rw [not_mem_keys_foldl_ruleStep, isInvoked, firstFailing?_concat]
  cases found : pipeline.firstFailing? progress.record visits visit.1 with
  | some first =>
      have behind : ¬visits.length ≤ first := Nat.not_le.mpr (lt_length_of_firstFailing? found)
      simp [behind]
  | none =>
      by_cases failing : pipeline.fails progress.record visit = true
      · simp [failing]
      · simp [failing]

theorem filter_zipIdx_concat {α : Type} {items : List α} {item : α}
    {selects selectsBefore : α × Nat → Bool}
    (same : ∀ place : α × Nat, place.2 < items.length → selects place = selectsBefore place) :
    (items ++ [item]).zipIdx.filter selects = items.zipIdx.filter selectsBefore ++
      if selects (item, items.length) then [(item, items.length)] else [] := by
  have inside : items.zipIdx.filter selects = items.zipIdx.filter selectsBefore :=
    List.filter_congr fun place member => same place (List.snd_lt_of_mem_zipIdx member)
  rw [List.zipIdx_append, List.filter_append, inside]
  simp [List.filter_cons]

/-- New entries come in the order of the first failing visits. -/
theorem entries_foldl_ruleStep : (visits.foldl pipeline.ruleStep progress).errors.entries =
    progress.errors.entries ++
      (visits.zipIdx.filter (pipeline.isFirstFailing progress visits)).map
        (failureEntry ·.1) := by
  induction visits using List.reverseRecOn with
  | nil => simp
  | append_singleton visits visit visitsIH =>
      rw [List.foldl_append, List.foldl_cons, List.foldl_nil, entries_ruleStep,
        record_foldl_ruleStep, visitsIH,
        filter_zipIdx_concat (isFirstFailing_concat pipeline progress visit visits),
        List.map_append, List.append_assoc]
      congr 2
      simp only [isFirstFailing_last]
      split <;> rfl

/-- Rules are invoked in the order of the visits. -/
theorem trace_foldl_ruleStep : (visits.foldl pipeline.ruleStep progress).trace =
    progress.trace ++ (visits.zipIdx.filter (pipeline.isInvoked progress visits)).flatMap
      (pipeline.checkEvents progress.record ·.1) := by
  induction visits using List.reverseRecOn with
  | nil => simp
  | append_singleton visits visit visitsIH =>
      rw [List.foldl_append, List.foldl_cons, List.foldl_nil, trace_ruleStep,
        record_foldl_ruleStep, visitsIH,
        filter_zipIdx_concat (isInvoked_concat pipeline progress visit visits),
        List.flatMap_append, List.append_assoc]
      congr 2
      simp only [isInvoked_last]
      split <;> simp

/-- The rule stage settles each field on its own. The errors at its start stay where they
are. A field without one takes the code of its first failing visit, and new codes come in
the order of these visits. Rules are invoked in the order of the visits, on a field without
an error at the start wherever there is something to judge, up to its first failing visit. -/
theorem applyRules_settles_each_field (registry : Registry) (config : Config)
    (registrations : List Registration) (start : Progress) :
    let pipeline := (new registry config).registerAll registrations
    let visits := Groups.registeredVisits (registrations.filterMap Registration.rule?)
      start.record.keys
    let after := pipeline.applyRules start
    start.errors.entries <+: after.errors.entries ∧
    (∀ field, field ∉ start.errors.keys → after.errors.get? field =
      ((pipeline.firstFailing? start.record visits field).bind (visits[·]?)).map (·.2.name)) ∧
    after.errors.entries = start.errors.entries ++
      (visits.zipIdx.filter (pipeline.isFirstFailing start visits)).map (failureEntry ·.1) ∧
    after.trace = start.trace ++
      (visits.zipIdx.filter (pipeline.isInvoked start visits)).flatMap
        (pipeline.checkEvents start.record ·.1) ∧
    after.record = start.record := by
  intro pipeline visits after
  have paid : pipeline.rules.entryVisits start.record.keys = visits := by
    rw [rules_registerAll]
    exact Groups.entryVisits_addAll_empty _ _
  have run : after = visits.foldl pipeline.ruleStep start := by
    rw [← paid]
    rfl
  have entries := entries_foldl_ruleStep pipeline start visits
  rw [run]
  refine ⟨?_, ?_, entries, trace_foldl_ruleStep pipeline start visits,
    record_foldl_ruleStep pipeline start visits⟩
  · rw [entries]
    exact List.prefix_append _ _
  · intro field fresh
    rw [get?_foldl_ruleStep, OrderedMap.get?_eq_none_iff_not_mem.mpr fresh, Option.none_or,
      List.find?_eq_bind_findIdx?_getElem?]
    rfl

/-- A rule on one field and then on every field: the second visit of `a` comes too late. -/
example :
    let refuse : BoundRule := ⟨"refuse", [], .caller, fun _ _ _ => .of false⟩
    let pipeline := (new .builtin .standard).registerAll
      [.rule (.field "a") refuse, .rule .every refuse]
    let start : Progress := ⟨.ofList [("b", .text "x"), ("a", .text "y")], .empty, []⟩
    let visits := Groups.registeredVisits [(.field "a", refuse), (.every, refuse)] start.record.keys
    visits.map Prod.fst = ["a", "b", "a"] ∧
      (visits.zipIdx.filter (pipeline.isInvoked start visits)).map Prod.snd = [0, 1] ∧
      (pipeline.applyRules start).errors.entries = [("a", "refuse"), ("b", "refuse")] :=
  ⟨rfl, rfl, rfl⟩

end Pipeline

end FieldCheck
