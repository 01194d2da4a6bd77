import FieldCheck.Proofs.Pipeline.ErrorsOfRun
import FieldCheck.Proofs.Validator.History

namespace FieldCheck

/-! What an outcome says about the validations that were made.

Success is read off the flag and the errors as they are when the outcome is taken. Errors
never go away, so if there are none now, there were none after the last validation. But the
flag may have been set since, and then success speaks of rules that never ran.
-/

namespace Validator

/-- What a validator still tells about its validations: whether there was one, and, as long
as it has no errors, that the last one was accepted if the record then counted as submitted. -/
structure Remembers (validator : Validator) (past : List Validation) : Prop where
  ran : validator.ran = true ↔ past ≠ []
  last : validator.errors.isEmpty = true →
    ∀ validation, past.getLast? = some validation → validation.accepted = validation.submitted

variable {validator : Validator} {past : List Validation}

theorem remembers_of_fresh (ran : validator.ran = false) : validator.Remembers [] :=
  ⟨by simp [ran], fun _ _ last => by cases last⟩

theorem remembers_validate :
    validator.validate.1.Remembers
      (past ++ [⟨validator.submitted, validator.validate.2.accepted⟩]) := by
  refine ⟨by simp [Validator.validate], fun noErrors validation last => ?_⟩
  rw [List.getLast?_concat, Option.some.injEq] at last
  subst last
  have accepted := validator.pipeline.run_accepted validator.record validator.errors
    validator.submitted
  have empty : (validator.pipeline.run validator.record validator.errors
    validator.submitted).errors.isEmpty = true := noErrors
  rw [empty, Bool.and_true] at accepted
  exact accepted

theorem isEmpty_addError (field code : String) :
    (validator.addError field code).errors.isEmpty = false := by
  have present : field ∈ (validator.errors.insert field code).keys := by
    rw [OrderedMap.keys_insert]
    split <;> simp_all
  rw [Bool.eq_false_iff, ne_eq, OrderedMap.isEmpty_iff_keys]
  exact List.ne_nil_of_mem present

end Validator

theorem Reached.remembers {validator : Validator} {past : List Validation}
    (reached : Reached validator past) : validator.Remembers past := by
  induction reached with
  | new | withConfig | withRegistry | copy | clone => exact Validator.remembers_of_fresh rfl
  | configured setup _ done ih =>
      obtain ⟨registrations, rfl⟩ := Validator.registers_of_setup done
      exact ⟨ih.ran, ih.last⟩
  | validated => exact Validator.remembers_validate
  | flagged _ _ ih | messageSet _ _ _ ih => exact ⟨ih.ran, ih.last⟩
  | errorAdded field code _ ih =>
      refine ⟨ih.ran, fun noErrors => ?_⟩
      rw [Validator.isEmpty_addError] at noErrors
      cases noErrors

/-- An outcome is a success if the validator was validated, counts as submitted now and has
no errors now. Its last validation was then accepted, unless the record did not count as
submitted at that time. -/
theorem success_iff_of_reached {validator : Validator} {past : List Validation}
    (reached : Reached validator past) :
    (validator.outcome.success = true ↔
      past ≠ [] ∧ validator.submitted = true ∧ validator.errors.isEmpty = true) ∧
    (validator.outcome.success = true →
      ∃ validation, past.getLast? = some validation ∧
        (validation.accepted = true ↔ validation.submitted = true)) := by
  have memory := reached.remembers
  have success : validator.outcome.success = true ↔
      past ≠ [] ∧ validator.submitted = true ∧ validator.errors.isEmpty = true := by
    rw [← memory.ran]
    simp [Validator.outcome, and_assoc]
  refine ⟨success, fun succeeded => ?_⟩
  obtain ⟨validated, _, noErrors⟩ := success.mp succeeded
  refine ⟨past.getLast validated, List.getLast?_eq_some_getLast validated, ?_⟩
  rw [memory.last noErrors _ (List.getLast?_eq_some_getLast validated)]

/-- The same field filled in, validated while the record counted as submitted. -/
theorem success_after_accepted_validation :
    ∃ configured, Setup.apply (.new (.ofList [("name", .text "Ann")]))
        (.rules (.field "name") ["required"]) = .ok configured ∧
      Reached configured.validate.1 [⟨true, configured.validate.2.accepted⟩] ∧
      configured.validate.1.outcome.success = true ∧
      configured.validate.2.accepted = true := by
  refine ⟨_, rfl, ?_⟩
  have configured := Reached.configured (.rules (.field "name") ["required"])
    (.new (.ofList [("name", .text "Ann")])) rfl
  have reached := configured.validated
  obtain ⟨validation, last, accepted⟩ := (success_iff_of_reached reached).2 rfl
  cases last
  exact ⟨reached, rfl, accepted.mpr rfl⟩

/-- A blank field that is required, validated while the record did not count as submitted:
once the flag is set the outcome is a success, though the one validation was refused. -/
theorem success_after_refused_validation :
    ∃ configured, Setup.apply (.new (.ofList [("name", .text "")]))
        (.rules (.field "name") ["required"]) = .ok configured ∧
      let validated := (configured.setSubmitted false).validate
      let flagged := validated.1.setSubmitted true
      Reached flagged [⟨false, validated.2.accepted⟩] ∧ validated.2.accepted = false ∧
        flagged.outcome.success = true := by
  refine ⟨_, rfl, ?_, rfl, rfl⟩
  have configured := Reached.configured (.rules (.field "name") ["required"])
    (.new (.ofList [("name", .text "")])) rfl
  exact .flagged true (.validated (.flagged false configured))

end FieldCheck
