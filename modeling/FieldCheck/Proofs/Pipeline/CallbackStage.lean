import FieldCheck.Pipeline.Run
import FieldCheck.Proofs.Data.KeyOrder

namespace FieldCheck

/-! The callback stage, call by call.

A callback may add errors on any field, so what a later visit finds depends on all earlier
calls. A call is therefore taken together with the errors that stand when it is made: those
at the start of the stage, and on top of them the additions of all earlier calls.
-/

/-- A callback that is called for a field: the errors that it finds, and those it adds. -/
structure CallbackCall where
  field : String
  callback : Callback
  errors : ErrorMap
  additions : List (String × String)

def CallbackCall.event (call : CallbackCall) : Event :=
  .calledBack call.callback.name call.callback.origin call.field

namespace Pipeline

def callbackCalls (progress : Progress) : List (String × Callback) → List CallbackCall
  | [] => []
  | visit :: rest =>
      let later := callbackCalls (callbackStep progress visit) rest
      if visit.1 ∈ progress.errors.keys then later
      else
        ⟨visit.1, visit.2, progress.errors,
          visit.2.run progress.record progress.errors visit.1⟩ :: later

variable {progress : Progress} {visit : String × Callback}

theorem callbackStep_of_failed (failed : visit.1 ∈ progress.errors.keys) :
    callbackStep progress visit = progress :=
  if_pos (OrderedMap.contains_iff.mpr failed)

theorem callbackStep_of_called (fresh : visit.1 ∉ progress.errors.keys) :
    callbackStep progress visit =
      { progress with
        errors := progress.errors.insertAll
          (visit.2.run progress.record progress.errors visit.1)
        trace := progress.trace ++ [.calledBack visit.2.name visit.2.origin visit.1] } :=
  if_neg fun failed => fresh (OrderedMap.contains_iff.mp failed)

/-- The calls of a series are those of its first visit, if it makes one, and then those
of the rest. -/
theorem callbackCalls_cons_of_called (rest : List (String × Callback))
    (fresh : visit.1 ∉ progress.errors.keys) :
    callbackCalls progress (visit :: rest) =
      ⟨visit.1, visit.2, progress.errors,
        visit.2.run progress.record progress.errors visit.1⟩ ::
          callbackCalls (callbackStep progress visit) rest :=
  if_neg fresh

theorem callbackCalls_cons_of_failed (rest : List (String × Callback))
    (failed : visit.1 ∈ progress.errors.keys) :
    callbackCalls progress (visit :: rest) = callbackCalls progress rest := by
  rw [callbackCalls, if_pos failed, callbackStep_of_failed failed]

variable (progress : Progress) (visits : List (String × Callback))

/-- A series of visits changes the record never, and the errors by its calls alone. -/
theorem foldl_callbackStep : visits.foldl callbackStep progress =
    { progress with
      errors := progress.errors.insertAll
        ((callbackCalls progress visits).flatMap CallbackCall.additions)
      trace := progress.trace ++ (callbackCalls progress visits).map CallbackCall.event } := by
  induction visits generalizing progress with
  | nil => simp [callbackCalls]
  | cons visit rest restIH =>
      rw [List.foldl_cons, restIH]
      by_cases failed : visit.1 ∈ progress.errors.keys
      · rw [callbackStep_of_failed failed, callbackCalls_cons_of_failed rest failed]
      · rw [callbackCalls_cons_of_called rest failed, List.flatMap_cons, List.map_cons,
          OrderedMap.insertAll_append, callbackStep_of_called failed]
        simp [CallbackCall.event]

/-- What a call finds and adds, and that its field has no error when it is made. -/
theorem callbackCalls_split {earlier later : List CallbackCall} {call : CallbackCall}
    (calls : callbackCalls progress visits = earlier ++ call :: later) :
    call.errors = progress.errors.insertAll (earlier.flatMap CallbackCall.additions) ∧
      call.additions = call.callback.run progress.record call.errors call.field ∧
      call.field ∉ call.errors.keys := by
  induction visits generalizing progress earlier with
  | nil => simp [callbackCalls] at calls
  | cons visit rest restIH =>
      by_cases failed : visit.1 ∈ progress.errors.keys
      · rw [callbackCalls_cons_of_failed rest failed] at calls
        exact restIH progress calls
      · rw [callbackCalls_cons_of_called rest failed] at calls
        cases earlier with
        | nil =>
            obtain ⟨rfl, _⟩ := List.cons.inj calls
            exact ⟨rfl, rfl, failed⟩
        | cons first others =>
            obtain ⟨rfl, restCalls⟩ := List.cons.inj calls
            obtain ⟨found, added, fresh⟩ := restIH _ restCalls
            rw [callbackStep_of_called failed] at found added
            rw [List.flatMap_cons, OrderedMap.insertAll_append]
            exact ⟨found, added, fresh⟩

/-- If all calls flag only their own fields, a field keeps the code it has, or takes the
last one of the first call that adds any. -/
theorem get?_foldl_callbackStep (field : String)
    (own : ∀ call ∈ callbackCalls progress visits,
      ∀ addition ∈ call.additions, addition.1 = call.field) :
    (visits.foldl callbackStep progress).errors.get? field =
      (progress.errors.get? field).or
        ((((callbackCalls progress visits).filter (·.field = field)).findSome?
          (·.additions.getLast?)).map Prod.snd) := by
  induction visits generalizing progress with
  | nil => simp [callbackCalls]
  | cons visit rest restIH =>
      by_cases failed : visit.1 ∈ progress.errors.keys
      · rw [callbackCalls_cons_of_failed rest failed] at own ⊢
        rw [List.foldl_cons, callbackStep_of_failed failed]
        exact restIH progress own
      · rw [callbackCalls_cons_of_called rest failed] at own ⊢
        obtain ⟨ownFirst, ownRest⟩ := List.forall_mem_cons.mp own
        rw [List.foldl_cons, restIH _ ownRest, List.filter_cons]
        have errors : (callbackStep progress visit).errors = progress.errors.insertAll
            (visit.2.run progress.record progress.errors visit.1) := by
          rw [callbackStep_of_called failed]
        rw [errors, OrderedMap.get?_insertAll_of_own ownFirst]
        by_cases same : visit.1 = field
        · subst same
          rw [if_pos rfl, OrderedMap.get?_eq_none_iff_not_mem.mpr failed,
            if_pos (decide_eq_true rfl), List.findSome?_cons]
          cases (visit.2.run progress.record progress.errors visit.1).getLast? <;> rfl
        · rw [if_neg (Ne.symm same), if_neg (by simpa using same)]

/-- No call changes the code that a field has at the start but one for another field. -/
theorem other_field_of_code_changed {errors : ErrorMap} {call : CallbackCall}
    {addition : String × String} {field : String} (failed : field ∈ errors.keys)
    (fresh : call.field ∉ errors.keys) (added : List (String × String))
    (changed : (call.errors.insertAll (added ++ [addition])).get? field ≠
      (call.errors.insertAll added).get? field) :
    addition.1 = field ∧ call.field ≠ field := by
  refine ⟨Decidable.byContradiction fun differs => changed ?_,
    (ne_of_mem_of_not_mem failed fresh).symm⟩
  rw [OrderedMap.insertAll_append, OrderedMap.get?_insertAll_of_not_mem]
  simpa using Ne.symm differs

/-- A field that has failed stays so, in its place, and no callback is called for it: at
every moment of the stage, also between two additions of one call, the fields that had
failed at its start come first. Their codes change only through calls for other fields. If
all calls flag only their own fields, a code from the start is final, and a field without
one takes the last code of the first call for it that adds any. -/
theorem applyCallbacks_spares_failed_fields (pipeline : Pipeline) (start : Progress) :
    let calls := callbackCalls start (pipeline.callbacks.entryVisits start.record.keys)
    let after := pipeline.applyCallbacks start
    after =
      { start with
        errors := start.errors.insertAll (calls.flatMap CallbackCall.additions)
        trace := start.trace ++ calls.map CallbackCall.event } ∧
    start.errors.keys <+: after.errors.keys ∧
    (∀ earlier call later, calls = earlier ++ call :: later →
      call.errors = start.errors.insertAll (earlier.flatMap CallbackCall.additions) ∧
      call.additions = call.callback.run start.record call.errors call.field ∧
      call.field ∉ call.errors.keys ∧ call.field ∉ start.errors.keys ∧
      (∀ previous ∈ earlier, ∀ addition ∈ previous.additions, addition.1 ≠ call.field) ∧
      (∀ added pending, call.additions = added ++ pending →
        start.errors.keys <+: (call.errors.insertAll added).keys) ∧
      ∀ added addition pending, call.additions = added ++ addition :: pending →
        ∀ field ∈ start.errors.keys,
          (call.errors.insertAll (added ++ [addition])).get? field ≠
            (call.errors.insertAll added).get? field →
          addition.1 = field ∧ call.field ≠ field) ∧
    ((∀ call ∈ calls, ∀ addition ∈ call.additions, addition.1 = call.field) →
      ∀ field, after.errors.get? field = (start.errors.get? field).or
        (((calls.filter (·.field = field)).findSome? (·.additions.getLast?)).map Prod.snd)) := by
  intro calls after
  have run := foldl_callbackStep start (pipeline.callbacks.entryVisits start.record.keys)
  refine ⟨run, ?_, ?_, fun own field => get?_foldl_callbackStep start _ field own⟩
  · rw [show after = _ from run]
    exact start.errors.keys_prefix_insertAll _
  · intro earlier call later split
    obtain ⟨found, added, fresh⟩ := callbackCalls_split start _ split
    have standing : start.errors.keys <+: call.errors.keys := by
      rw [found]
      exact start.errors.keys_prefix_insertAll _
    have freshAtStart : call.field ∉ start.errors.keys := fun failed =>
      fresh (standing.subset failed)
    refine ⟨found, added, fresh, freshAtStart, ?_, ?_, ?_⟩
    · intro previous member addition flagged same
      apply fresh
      rw [found, OrderedMap.mem_keys_insertAll]
      exact .inr (List.mem_map.mpr
        ⟨addition, List.mem_flatMap.mpr ⟨previous, member, flagged⟩, same⟩)
    · intro added _ _
      exact standing.trans (call.errors.keys_prefix_insertAll added)
    · intro added addition _ _ field failed changed
      exact other_field_of_code_changed failed freshAtStart added changed

end Pipeline

end FieldCheck
