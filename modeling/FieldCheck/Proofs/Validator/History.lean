import FieldCheck.Proofs.Pipeline.Registration
import FieldCheck.Validator

namespace FieldCheck

/-- A call that configures a validator. One rule or one callback is a list of one. -/
inductive Setup where
  | resolver (resolver : Resolver)
  | allowEmptyRules (rules : List String)
  | declare (field : String) (shape : Shape)
  | preFilter (target : Target) (name : String)
  | postFilter (target : Target) (name : String)
  | filterWith (stage : FilterStage) (target : Target) (name : String)
      (apply : Value → Value)
  | rules (target : Target) (specs : List String)
  | ruleWith (target : Target) (name : String) (check : Value → Context → Verdict)
  | callbacks (target : Target) (names : List String)
  | callbackWith (target : Target) (name : String)
      (run : Record → ErrorMap → String → List (String × String))

namespace Setup

def apply (validator : Validator) : Setup → Except RegistrationError Validator
  | .resolver knows => .ok (validator.resolver knows)
  | .allowEmptyRules names => .ok (validator.allowEmptyRules names)
  | .declare field shape => .ok (validator.declare field shape)
  | .preFilter target name => validator.preFilter target name
  | .postFilter target name => validator.postFilter target name
  | .filterWith stage target name change => .ok (validator.filterWith stage target name change)
  | .rules target specs => validator.rules target specs
  | .ruleWith target name check => .ok (validator.ruleWith target name check)
  | .callbacks target names => validator.callbacks target names
  | .callbackWith target name run => .ok (validator.callbackWith target name run)

end Setup

namespace Pipeline

variable {pipeline after : Pipeline} {named : Option String}

/-- `after` is `pipeline` with some registrations added to it. -/
def Registers (pipeline after : Pipeline) : Prop :=
  ∃ registrations, after = pipeline.registerAll registrations

theorem Registers.trans {middle : Pipeline} (first : pipeline.Registers middle)
    (second : middle.Registers after) : pipeline.Registers after := by
  obtain ⟨earlier, rfl⟩ := first
  obtain ⟨later, rfl⟩ := second
  exact ⟨earlier ++ later, (pipeline.registerAll_append earlier later).symm⟩

/-- The same, where all the registrations name this one field, or none of them any. -/
def RegistersOn (pipeline : Pipeline) (named : Option String) (after : Pipeline) : Prop :=
  ∃ registrations, (∀ registration ∈ registrations, registration.field? = named) ∧
    after = pipeline.registerAll registrations

theorem registersOn_refl (pipeline : Pipeline) (named : Option String) :
    pipeline.RegistersOn named pipeline :=
  ⟨[], by simp, rfl⟩

theorem registersOn_register (pipeline : Pipeline) (registration : Registration) :
    pipeline.RegistersOn registration.field? (pipeline.register registration) :=
  ⟨[registration], by simp, rfl⟩

theorem RegistersOn.trans {middle : Pipeline} (first : pipeline.RegistersOn named middle)
    (second : middle.RegistersOn named after) : pipeline.RegistersOn named after := by
  obtain ⟨earlier, earlierNames, rfl⟩ := first
  obtain ⟨later, laterNames, rfl⟩ := second
  exact ⟨earlier ++ later, List.forall_mem_append.mpr ⟨earlierNames, laterNames⟩,
    (pipeline.registerAll_append earlier later).symm⟩

theorem registersOn_of_foldlM {β : Type}
    {add : Pipeline → β → Except RegistrationError Pipeline}
    (step : ∀ {pipeline item after}, add pipeline item = .ok after →
      pipeline.RegistersOn named after)
    {items : List β} (added : items.foldlM add pipeline = .ok after) :
    pipeline.RegistersOn named after := by
  induction items generalizing pipeline with
  | nil =>
      cases added
      exact registersOn_refl _ named
  | cons item rest restIH =>
      rw [List.foldlM_cons] at added
      cases first : add pipeline item with
      | error error => rw [first] at added; cases added
      | ok middle =>
          rw [first] at added
          exact (step first).trans (restIH added)

theorem registersOn_of_addFilterNamed {stage : FilterStage} {target : Target} {name : String}
    (added : pipeline.addFilterNamed stage target name = .ok after) :
    pipeline.RegistersOn target.name? after := by
  unfold addFilterNamed at added
  cases found : pipeline.registry.filter name with
  | error error => rw [found] at added; cases added
  | ok filter =>
      rw [found] at added
      cases added
      exact registersOn_register pipeline (.filter stage target filter)

theorem registersOn_of_addCallbackNamed {target : Target} {name : String}
    (added : pipeline.addCallbackNamed target name = .ok after) :
    pipeline.RegistersOn target.name? after := by
  unfold addCallbackNamed at added
  cases found : pipeline.registry.callback name with
  | error error => rw [found] at added; cases added
  | ok callback =>
      rw [found] at added
      cases added
      exact registersOn_register pipeline (.callback target callback)

theorem registersOn_declareShape (target : Target) (rule : Rule) :
    pipeline.RegistersOn target.name? (pipeline.declareShape target rule) := by
  unfold declareShape
  split
  · rename_i shape field _ named
    rw [named]
    exact registersOn_register pipeline (.shape field shape)
  · exact registersOn_refl pipeline _

/-- A rule that declares a shape is two registrations, in this order. -/
theorem registersOn_of_addRule {target : Target} {spec : RuleSpec}
    (added : pipeline.addRule target spec = .ok after) :
    pipeline.RegistersOn target.name? after := by
  unfold addRule at added
  split at added
  · cases added
  · rename_i rule _
    split at added
    · cases added
    · cases added
      exact (registersOn_declareShape target rule).trans
        (registersOn_register _ (.rule target _))

theorem registersOn_of_addSpec {target : Target} {text : String}
    (added : Validator.addSpec target pipeline text = .ok after) :
    pipeline.RegistersOn target.name? after := by
  unfold Validator.addSpec at added
  split at added
  · cases added
  · exact registersOn_of_addRule added

theorem registersOn_allowEmpty (pipeline : Pipeline) (rules : List String) :
    pipeline.RegistersOn none (rules.foldl allowEmpty pipeline) := by
  induction rules generalizing pipeline with
  | nil => exact registersOn_refl pipeline none
  | cons rule rest restIH =>
      exact (registersOn_register pipeline (.emptyRule rule)).trans (restIH _)

end Pipeline

namespace Setup

def target? : Setup → Option Target
  | .preFilter target _ | .postFilter target _ | .filterWith _ target _ _ | .rules target _
  | .ruleWith target _ _ | .callbacks target _ | .callbackWith target _ _ => some target
  | .resolver _ | .allowEmptyRules _ | .declare _ _ => none

/-- The one field that a call is about, if it is about one. -/
def field? : Setup → Option String
  | .declare field _ => some field
  | setup => setup.target?.bind Target.name?

end Setup

namespace Validator

variable {validator after : Validator}

theorem registersOn_of_tryConfigure {named : Option String}
    {change : Pipeline → Except RegistrationError Pipeline}
    (step : ∀ {pipeline}, change validator.pipeline = .ok pipeline →
      validator.pipeline.RegistersOn named pipeline)
    (changed : validator.tryConfigure change = .ok after) :
    validator.pipeline.RegistersOn named after.pipeline ∧
      after = { validator with pipeline := after.pipeline } := by
  unfold tryConfigure at changed
  cases outcome : change validator.pipeline with
  | error error => rw [outcome] at changed; cases changed
  | ok pipeline =>
      rw [outcome] at changed
      cases changed
      exact ⟨step outcome, rfl⟩

/-- Configuration adds registrations to the pipeline that name the field of the call and no
other one, and leaves all else as it is. -/
theorem registersOn_of_setup {setup : Setup} (configured : setup.apply validator = .ok after) :
    validator.pipeline.RegistersOn setup.field? after.pipeline ∧
      after = { validator with pipeline := after.pipeline } := by
  cases setup with
  | resolver knows =>
      cases configured
      exact ⟨Pipeline.registersOn_register _ (.resolver knows), rfl⟩
  | allowEmptyRules names =>
      cases configured
      exact ⟨Pipeline.registersOn_allowEmpty _ names, rfl⟩
  | declare field shape =>
      cases configured
      exact ⟨Pipeline.registersOn_register _ (.shape field shape), rfl⟩
  | preFilter target name =>
      have changed : validator.tryConfigure (·.addFilterNamed .pre target name) = .ok after :=
        configured
      exact registersOn_of_tryConfigure Pipeline.registersOn_of_addFilterNamed changed
  | postFilter target name =>
      have changed : validator.tryConfigure (·.addFilterNamed .post target name) = .ok after :=
        configured
      exact registersOn_of_tryConfigure Pipeline.registersOn_of_addFilterNamed changed
  | filterWith stage target name change =>
      cases configured
      exact ⟨Pipeline.registersOn_register _ (.filter stage target ⟨name, .caller, change⟩), rfl⟩
  | rules target specs =>
      have changed : validator.tryConfigure (specs.foldlM (addSpec target) ·) = .ok after :=
        configured
      exact registersOn_of_tryConfigure
        (Pipeline.registersOn_of_foldlM Pipeline.registersOn_of_addSpec) changed
  | ruleWith target name check =>
      cases configured
      exact ⟨Pipeline.registersOn_register _ (.rule target _), rfl⟩
  | callbacks target names =>
      have changed : validator.tryConfigure (names.foldlM
          (fun pipeline name => pipeline.addCallbackNamed target name) ·) = .ok after :=
        configured
      exact registersOn_of_tryConfigure
        (Pipeline.registersOn_of_foldlM Pipeline.registersOn_of_addCallbackNamed) changed
  | callbackWith target name run =>
      cases configured
      exact ⟨Pipeline.registersOn_register _ (.callback target _), rfl⟩

theorem registers_of_setup {setup : Setup} (configured : setup.apply validator = .ok after) :
    ∃ registrations, after =
      { validator with pipeline := validator.pipeline.registerAll registrations } := by
  obtain ⟨⟨registrations, _, pipeline⟩, same⟩ := registersOn_of_setup configured
  exact ⟨registrations, by rw [← pipeline]; exact same⟩

end Validator

/-- One validation: whether the record counted as submitted, and what the call returned. -/
structure Validation where
  submitted : Bool
  accepted : Bool

/-- The validators there can be, each with the validations that were made of it, in order.
A copy or a clone is a validator of its own, with no validations yet. -/
inductive Reached : Validator → List Validation → Prop where
  | new (record : Record) : Reached (.new record) []
  | withConfig (record : Record) (config : Config) : Reached (.withConfig record config) []
  | withRegistry (record : Record) (registry : Registry) (config : Config) :
      Reached (.withRegistry record registry config) []
  | copy {source : Validator} {past : List Validation} (record : Record)
      (reached : Reached source past) : Reached (source.copy record) []
  | clone {source : Validator} {past : List Validation}
      (reached : Reached source past) : Reached source.clone []
  | configured {validator after : Validator} {past : List Validation} (setup : Setup)
      (reached : Reached validator past) (done : setup.apply validator = .ok after) :
      Reached after past
  | validated {validator : Validator} {past : List Validation}
      (reached : Reached validator past) :
      Reached validator.validate.1
        (past ++ [⟨validator.submitted, validator.validate.2.accepted⟩])
  | flagged {validator : Validator} {past : List Validation} (submitted : Bool)
      (reached : Reached validator past) : Reached (validator.setSubmitted submitted) past
  | errorAdded {validator : Validator} {past : List Validation} (field code : String)
      (reached : Reached validator past) : Reached (validator.addError field code) past
  | messageSet {validator : Validator} {past : List Validation} (field message : String)
      (reached : Reached validator past) : Reached (validator.setMessage field message) past

/-- A validator's pipeline is a new one with registrations, however it was handed on. -/
theorem Reached.pipeline_registered {validator : Validator} {past : List Validation}
    (reached : Reached validator past) :
    ∃ registry config, (Pipeline.new registry config).Registers validator.pipeline := by
  induction reached with
  | new record => exact ⟨_, _, [], rfl⟩
  | withConfig record config => exact ⟨_, _, [], rfl⟩
  | withRegistry record registry config => exact ⟨_, _, [], rfl⟩
  | configured setup _ done ih =>
      obtain ⟨registrations, rfl⟩ := Validator.registers_of_setup done
      obtain ⟨registry, config, earlier⟩ := ih
      exact ⟨registry, config, earlier.trans ⟨registrations, rfl⟩⟩
  | copy _ _ ih | clone _ ih | validated _ ih | flagged _ _ ih | errorAdded _ _ _ ih
  | messageSet _ _ _ ih => exact ih

end FieldCheck
