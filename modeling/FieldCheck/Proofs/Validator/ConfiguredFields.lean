import FieldCheck.Proofs.Pipeline.RecordOfRun
import FieldCheck.Proofs.Validator.History

namespace FieldCheck

/-! The fields that a validator is configured for, and the star.

A call is about one field at most, and all that it registers names that field. As the text of
a target the star means every field and names none. So it becomes a field only where a field
is named without a target, in the declaration of a shape, and a run then fills it in.
-/

theorem Target.exists_ofText_iff {target : Target} :
    (∃ text, target = .ofText text) ↔ target ≠ .field "*" := by
  constructor
  · rintro ⟨text, rfl⟩ star
    unfold ofText at star
    split at star
    · cases star
    · rename_i other
      exact other (Target.field.inj star)
  · intro named
    cases target with
    | every => exact ⟨"*", rfl⟩
    | field name =>
        refine ⟨name, (if_neg fun star => named ?_).symm⟩
        rw [star]

namespace Setup

/-- The target of the call, if there is one, was given as a text. -/
def InText (setup : Setup) : Prop :=
  ∀ target, setup.target? = some target → ∃ text, target = .ofText text

theorem eq_declare_of_field?_eq_star {setup : Setup} (inText : setup.InText)
    (star : setup.field? = some "*") : ∃ shape, setup = .declare "*" shape := by
  have noTarget : ∀ target, setup.target? = some target → target.name? ≠ some "*" := by
    intro target given named
    have other := Target.exists_ofText_iff.mp (inText target given)
    cases target with
    | every => cases named
    | field name => exact other (congrArg Target.field (Option.some.inj named))
  cases setup with
  | declare field shape => exact ⟨shape, congrArg (declare · shape) (Option.some.inj star)⟩
  | resolver | allowEmptyRules => cases star
  | preFilter target | postFilter target | filterWith _ target | rules target
  | ruleWith target | callbacks target | callbackWith target =>
      exact absurd star (noTarget target rfl)

end Setup

namespace Validator

variable {validator after : Validator}

theorem exists_registrations_of_setup {setup : Setup}
    (configured : setup.apply validator = .ok after) :
    ∃ registrations, after.pipeline = validator.pipeline.registerAll registrations ∧
      (∀ registration ∈ registrations, registration.field? = setup.field?) ∧
      ∀ field shape, setup = .declare field shape → .shape field shape ∈ registrations := by
  obtain ⟨⟨registrations, names, pipeline⟩, _⟩ := registersOn_of_setup configured
  cases setup with
  | declare field shape =>
      cases configured
      refine ⟨[.shape field shape], rfl, by simp [Registration.field?, Setup.field?], ?_⟩
      rintro _ _ ⟨⟩
      exact List.mem_cons_self
  | _ =>
      refine ⟨registrations, pipeline, names, ?_⟩
      rintro _ _ ⟨⟩

theorem exists_registrations_of_setups {setups : List Setup}
    (configured : setups.foldlM Setup.apply validator = .ok after) :
    ∃ registrations, after.pipeline = validator.pipeline.registerAll registrations ∧
      (∀ registration ∈ registrations, ∃ setup ∈ setups, registration.field? = setup.field?) ∧
      ∀ field shape, .declare field shape ∈ setups → .shape field shape ∈ registrations := by
  induction setups generalizing validator with
  | nil =>
      cases configured
      exact ⟨[], rfl, by simp, by simp⟩
  | cons setup rest restIH =>
      rw [List.foldlM_cons] at configured
      cases first : setup.apply validator with
      | error error => rw [first] at configured; cases configured
      | ok middle =>
          rw [first] at configured
          obtain ⟨earlier, middleEq, earlierNames, earlierShapes⟩ :=
            exists_registrations_of_setup first
          obtain ⟨later, afterEq, laterNames, laterShapes⟩ := restIH configured
          refine ⟨earlier ++ later, ?_, ?_, ?_⟩
          · rw [afterEq, middleEq, Pipeline.registerAll_append]
          · intro registration member
            rcases List.mem_append.mp member with inEarlier | inLater
            · exact ⟨setup, List.mem_cons_self, earlierNames _ inEarlier⟩
            · obtain ⟨call, inRest, same⟩ := laterNames _ inLater
              exact ⟨call, List.mem_cons_of_mem _ inRest, same⟩
          · intro field shape declared
            rcases List.mem_cons.mp declared with same | inRest
            · exact List.mem_append_left _ (earlierShapes field shape same.symm)
            · exact List.mem_append_right _ (laterShapes field shape inRest)

end Validator

/-- Whatever calls configure a validator, with targets given as texts, the star is one of its
fields just when a shape was declared for it, and just then a run adds it to a record
without it. -/
theorem star_is_field_iff_declared (record : Record) (registry : Registry) (config : Config)
    {setups : List Setup} {after : Validator} (inText : ∀ setup ∈ setups, setup.InText)
    (configured : setups.foldlM Setup.apply (.withRegistry record registry config) = .ok after) :
    ("*" ∈ after.fieldNames ↔ ∃ shape, .declare "*" shape ∈ setups) ∧
    ∀ (given : Record) (errors : ErrorMap) (submitted : Bool), "*" ∉ given.keys →
      ("*" ∈ (after.pipeline.run given errors submitted).record.keys ↔
        ∃ shape, .declare "*" shape ∈ setups) := by
  obtain ⟨registrations, pipeline, names, shapes⟩ :=
    Validator.exists_registrations_of_setups configured
  have fresh : after.pipeline = (Pipeline.new registry config).registerAll registrations :=
    pipeline
  have star : "*" ∈ after.pipeline.fieldNames ↔ ∃ shape, .declare "*" shape ∈ setups := by
    rw [fresh, Pipeline.fieldNames_registerAll_new, Registration.mem_fieldNames]
    constructor
    · rintro ⟨registration, member, named⟩
      obtain ⟨setup, call, same⟩ := names registration member
      obtain ⟨shape, rfl⟩ :=
        Setup.eq_declare_of_field?_eq_star (inText setup call) (same.symm.trans named)
      exact ⟨shape, call⟩
    · rintro ⟨shape, call⟩
      exact ⟨_, shapes "*" shape call, rfl⟩
  refine ⟨star, fun given errors submitted missing => ?_⟩
  rw [Pipeline.keys_run, Pipeline.keys_prepopulate, ← star]
  simp [missing]

/-- A form whose fields are all trimmed, one of them required and one filled in as a list. -/
theorem star_of_trimmed_form_is_no_field :
    let record : Record := .ofList [("name", .text " Ann ")]
    let setups : List Setup := [.preFilter (.ofText "*") "trim",
      .rules (.ofText "name") ["required", "length[2,40]"], .declare "tags" .sequence]
    ∃ after, setups.foldlM Setup.apply (.withRegistry record .builtin .standard) = .ok after ∧
      "*" ∉ after.fieldNames ∧ "*" ∉ (after.pipeline.run record .empty true).record.keys := by
  intro record setups
  have inText : ∀ setup ∈ setups, setup.InText := by
    simp only [setups, List.forall_mem_cons]
    refine ⟨?_, ?_, ?_, by simp⟩
    · rintro _ ⟨⟩
      exact ⟨_, rfl⟩
    · rintro _ ⟨⟩
      exact ⟨_, rfl⟩
    · exact nofun
  have undeclared : ¬∃ shape, .declare "*" shape ∈ setups := by simp [setups]
  obtain ⟨after, configured⟩ :
      ∃ after, setups.foldlM Setup.apply (.withRegistry record .builtin .standard) = .ok after :=
    ⟨_, rfl⟩
  obtain ⟨field, run⟩ := star_is_field_iff_declared record .builtin .standard inText configured
  exact ⟨after, configured, mt field.mp undeclared,
    mt (run record .empty true (by decide)).mp undeclared⟩

/-- A shape declared for the star makes it a field, and a run fills it in. -/
theorem declared_star_is_filled_in :
    let validator := (Validator.new (.ofList [("name", .text "Ann")])).declare "*" .scalar
    validator.fieldNames = ["*"] ∧ validator.validate.1.record.keys = ["name", "*"] := by
  decide

end FieldCheck
