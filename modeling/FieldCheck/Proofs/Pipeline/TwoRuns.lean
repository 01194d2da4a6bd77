import FieldCheck.Library
import FieldCheck.Proofs.Pipeline.ErrorsOfRun
import Mathlib.Data.List.Basic
import Mathlib.Data.List.Find

namespace FieldCheck

/-! Two runs of one pipeline on different records.

What a run makes of a field is settled by the value and the code that the field has, by the
verdicts on it and by what callbacks say of it. Two records that agree on a field come out
agreeing on it as far as the rules look at the same things: at nothing else in the record,
or at the record as a mapping.
-/

namespace Library

/-- Two rules of the library look at other fields: no other one looks at the record. -/
theorem rule_cases {rule : Rule} (member : rule ∈ rules) :
    (rule.name = "matches" ∧ rule.check = fun value arguments context =>
      .of (Rules.matchesFields value context.record arguments)) ∨
    (rule.name = "depends_on" ∧ rule.check = fun _ arguments context =>
      .of (Rules.dependsOn context.record arguments)) ∨
    ∀ value arguments record other config resolver,
      rule.check value arguments ⟨record, config, resolver⟩ =
        rule.check value arguments ⟨other, config, resolver⟩ := by
  simp only [rules, List.mem_cons, List.not_mem_nil, or_false] at member
  rcases member with rfl | rfl | rfl | member
  · exact .inr (.inr fun _ _ _ _ _ _ => rfl)
  · exact .inl ⟨rfl, rfl⟩
  · exact .inr (.inl ⟨rfl, rfl⟩)
  · refine .inr (.inr fun value arguments record other config resolver => ?_)
    rcases member with rfl | rfl | rfl | rfl | rfl | rfl | rfl | rfl | rfl | rfl | rfl | rfl |
      rfl | rfl | rfl | rfl | rfl <;> rfl

end Library

/-- A rule of the library that looks at no other field, or one of the caller's that judges
by the value and the settings alone. -/
def BoundRule.LooksAtValue (bound : BoundRule) : Prop :=
  (∃ rule ∈ Library.rules, rule.name ≠ "matches" ∧ rule.name ≠ "depends_on" ∧
    bound.check = rule.check) ∨
  ∃ judge : Value → Config → Verdict,
    bound.check = fun value _ context => judge value context.config

theorem BoundRule.LooksAtValue.check_eq {bound : BoundRule} (looks : bound.LooksAtValue)
    (value : Value) (arguments : List String) (left right : Record) (config : Config)
    (resolver : Option Resolver) :
    bound.check value arguments ⟨left, config, resolver⟩ =
      bound.check value arguments ⟨right, config, resolver⟩ := by
  rcases looks with ⟨rule, member, notMatches, notDependsOn, same⟩ | ⟨judge, same⟩
  · rcases Library.rule_cases member with ⟨named, _⟩ | ⟨named, _⟩ | blind
    · exact absurd named notMatches
    · exact absurd named notDependsOn
    · rw [same, blind]
  · rw [same]

/-- A rule of the library looks at the record as a mapping. -/
theorem Library.check_congr {rule : Rule} (member : rule ∈ rules) {left right : Record}
    (same : left.SameMapping right) (value : Value) (arguments : List String)
    (config : Config) (resolver : Option Resolver) :
    rule.check value arguments ⟨left, config, resolver⟩ =
      rule.check value arguments ⟨right, config, resolver⟩ := by
  rcases rule_cases member with ⟨_, isCheck⟩ | ⟨_, isCheck⟩ | blind
  · simp only [isCheck, Rules.matchesFields, Record.value, same _]
  · simp only [isCheck, Rules.dependsOn, same _]
  · exact blind value arguments left right config resolver

theorem Record.value_congr {left right : Record} {field : String}
    (same : left.get? field = right.get? field) : left.value field = right.value field := by
  rw [value, value, same]

namespace Callback

variable {callback : Callback} (trap : callback.run = Library.honeypot.run)

include trap

theorem selfContained_of_honeypot : callback.SelfContained := by
  obtain ⟨ofRecord, own⟩ := Library.honeypot_selfContained
  rw [← trap] at ofRecord own
  exact ⟨ofRecord, own⟩

theorem code?_of_honeypot (record : Record) (field : String) : callback.code? record field =
    if (record.value field).isBlank then none else some "invalid" := by
  have flags : callback.run record .empty field =
      if (record.value field).isBlank then [] else [(field, "invalid")] := by
    rw [trap]
    rfl
  rw [code?, flags]
  split <;> rfl

end Callback

namespace Pipeline

variable {pipeline : Pipeline} {left right record other : Record}
variable {errors otherErrors : ErrorMap} {field : String}

theorem get?_record_prepare_congr (same : record.get? field = other.get? field)
    (errors otherErrors : ErrorMap) :
    (pipeline.prepare record errors).record.get? field =
      (pipeline.prepare other otherErrors).record.get? field := by
  rw [get?_prepare, get?_prepare, get?_prepopulate, get?_prepopulate, same]

theorem get?_record_run_congr (same : record.get? field = other.get? field)
    (errors otherErrors : ErrorMap) (submitted : Bool) :
    (pipeline.run record errors submitted).record.get? field =
      (pipeline.run other otherErrors submitted).record.get? field := by
  rw [get?_run, get?_run, get?_prepopulate, get?_prepopulate, same]

theorem visitors_congr {α : Type} (groups : Groups α)
    (same : left.get? field = right.get? field) :
    groups.visitors left.keys field = groups.visitors right.keys field := by
  have samePresence : field ∈ left.keys ↔ field ∈ right.keys := by
    rw [← OrderedMap.isSome_get?_iff, same, OrderedMap.isSome_get?_iff]
  simp only [Groups.visitors, samePresence]

theorem ruleCode?_congr (same : left.get? field = right.get? field)
    (verdicts : ∀ rule ∈ pipeline.rules.members, ∀ value,
      rule.check value rule.arguments (pipeline.context left) =
        rule.check value rule.arguments (pipeline.context right)) :
    pipeline.ruleCode? left field = pipeline.ruleCode? right field := by
  have fails : ∀ rule ∈ pipeline.rules.visitors right.keys field,
      pipeline.fails left (field, rule) = pipeline.fails right (field, rule) := by
    intro rule visitor
    have sameVerdict := verdicts rule (Groups.mem_members_of_mem_visitors visitor)
    rw [Pipeline.fails, Pipeline.fails, verdict, verdict, applicable, applicable,
      Record.value_congr same, sameVerdict]
  rw [ruleCode?, ruleCode?, visitors_congr _ same, List.find?_congr fails]

theorem callbackCode?_congr (same : left.get? field = right.get? field)
    (traps : ∀ callback ∈ pipeline.callbacks.members, callback.run = Library.honeypot.run) :
    pipeline.callbackCode? left field = pipeline.callbackCode? right field := by
  have codes : ∀ callback ∈ pipeline.callbacks.visitors right.keys field,
      callback.code? left field = callback.code? right field := by
    intro callback visitor
    have trap := traps callback (Groups.mem_members_of_mem_visitors visitor)
    rw [Callback.code?_of_honeypot trap, Callback.code?_of_honeypot trap,
      Record.value_congr same]
  rw [callbackCode?, callbackCode?, visitors_congr _ same, ← List.head?_filterMap,
    ← List.head?_filterMap, List.filterMap_congr codes]

theorem get?_errors_run_congr
    (traps : ∀ callback ∈ pipeline.callbacks.members, callback.run = Library.honeypot.run)
    (verdicts : ∀ rule ∈ pipeline.rules.members, ∀ value,
      rule.check value rule.arguments
          (pipeline.context (pipeline.prepare record errors).record) =
        rule.check value rule.arguments
          (pipeline.context (pipeline.prepare other otherErrors).record))
    (sameValue : record.get? field = other.get? field)
    (sameCode : errors.get? field = otherErrors.get? field) (submitted : Bool) :
    (pipeline.run record errors submitted).errors.get? field =
      (pipeline.run other otherErrors submitted).errors.get? field := by
  have contained : ∀ callback ∈ pipeline.callbacks.members, callback.SelfContained :=
    fun callback member => Callback.selfContained_of_honeypot (traps callback member)
  have samePrepared : (pipeline.prepare record errors).record.get? field =
      (pipeline.prepare other otherErrors).record.get? field :=
    get?_record_prepare_congr sameValue errors otherErrors
  cases submitted with
  | false => rw [errors_run_false, errors_run_false, sameCode]
  | true =>
      rw [get?_errors_run _ _ _ _ contained, get?_errors_run _ _ _ _ contained, sameCode,
        newCode?, newCode?, ruleCode?_congr samePrepared verdicts,
        callbackCode?_congr samePrepared traps]

/-- With rules that look at the value that they judge and at no other, and with honeypots
for callbacks, a field comes out of a run the same whatever stands beside it: how many other
fields there are, in which order, and what they hold. -/
theorem run_keeps_fields_apart (pipeline : Pipeline)
    (rules : ∀ rule ∈ pipeline.rules.members, rule.LooksAtValue)
    (traps : ∀ callback ∈ pipeline.callbacks.members, callback.run = Library.honeypot.run)
    (field : String) (record other : Record) (errors otherErrors : ErrorMap)
    (sameValue : record.get? field = other.get? field)
    (sameCode : errors.get? field = otherErrors.get? field) (submitted : Bool) :
    let left := pipeline.run record errors submitted
    let right := pipeline.run other otherErrors submitted
    left.errors.get? field = right.errors.get? field ∧
      left.record.get? field = right.record.get? field := by
  refine ⟨get?_errors_run_congr traps ?_ sameValue sameCode submitted,
    get?_record_run_congr sameValue errors otherErrors submitted⟩
  intro rule member value
  exact (rules rule member).check_eq value rule.arguments _ _ pipeline.config pipeline.resolver

/-- A code that lacks the decimal point, on its own and at the end of a form with a trap
that was walked into and an error from before. -/
theorem run_keeps_fields_apart_in_forms :
    let pipeline := (new .builtin .standard).registerAll
      [.filter .pre .every ⟨"trim", .caller, Filters.trim⟩,
        .rule .every ⟨"required", [], .library, fun value _ _ => .of (Rules.required value)⟩,
        .rule (.field "code") ⟨"point", [], .caller, fun value _ context =>
          .of (value.toText.toList.contains context.config.decimalSeparator)⟩,
        .callback .every Library.honeypot]
    let record : Record := .ofList [("code", .text " 12 ")]
    let other : Record := .ofList [("name", .text "Ann"), ("code", .text " 12 ")]
    let left := pipeline.run record .empty true
    let right := pipeline.run other (.ofList [("mail", "taken")]) true
    left.errors.entries = [("code", "point")] ∧
      right.errors.entries = [("mail", "taken"), ("code", "point"), ("name", "invalid")] ∧
      left.errors.get? "code" = right.errors.get? "code" ∧
      left.record.get? "code" = right.record.get? "code" := by
  intro pipeline record other left right
  have rules : ∀ rule ∈ pipeline.rules.members, rule.LooksAtValue := by
    intro rule member
    rcases List.mem_cons.mp member with rfl | member
    · exact .inl ⟨Library.rules[0], List.getElem_mem _, by decide, by decide, rfl⟩
    · cases List.mem_singleton.mp member
      exact .inr ⟨fun value config =>
        .of (value.toText.toList.contains config.decimalSeparator), rfl⟩
  have traps : ∀ callback ∈ pipeline.callbacks.members,
      callback.run = Library.honeypot.run := by
    intro callback member
    cases List.mem_singleton.mp member
    rfl
  have apart := run_keeps_fields_apart pipeline rules traps "code" record other .empty
    (.ofList [("mail", "taken")]) rfl rfl true
  exact ⟨by decide, by decide, apart⟩

/-- With the rules and callbacks of the library, among them the two rules that look at other
fields, the order of the fields does not matter: records that are equal as mappings come out
equal as mappings, with errors that are, and with the same answer. -/
theorem run_ignores_field_order (pipeline : Pipeline)
    (rules : ∀ bound ∈ pipeline.rules.members, ∃ rule ∈ Library.rules, bound.check = rule.check)
    (traps : ∀ callback ∈ pipeline.callbacks.members,
      ∃ listed ∈ Library.callbacks, callback.run = listed.run)
    (record other : Record) (errors otherErrors : ErrorMap)
    (sameRecord : record.SameMapping other) (sameErrors : errors.SameMapping otherErrors)
    (submitted : Bool) :
    let left := pipeline.run record errors submitted
    let right := pipeline.run other otherErrors submitted
    left.accepted = right.accepted ∧ left.record.SameMapping right.record ∧
      left.errors.SameMapping right.errors := by
  intro left right
  -- There is one callback in the library.
  have honeypots : ∀ callback ∈ pipeline.callbacks.members,
      callback.run = Library.honeypot.run := by
    intro callback member
    obtain ⟨listed, among, same⟩ := traps callback member
    cases List.mem_singleton.mp among
    exact same
  have samePrepared : (pipeline.prepare record errors).record.SameMapping
      (pipeline.prepare other otherErrors).record :=
    fun field => get?_record_prepare_congr (sameRecord field) errors otherErrors
  have verdicts : ∀ bound ∈ pipeline.rules.members, ∀ value,
      bound.check value bound.arguments
          (pipeline.context (pipeline.prepare record errors).record) =
        bound.check value bound.arguments
          (pipeline.context (pipeline.prepare other otherErrors).record) := by
    intro bound member value
    obtain ⟨rule, among, same⟩ := rules bound member
    rw [same]
    exact Library.check_congr among samePrepared value bound.arguments pipeline.config
      pipeline.resolver
  have errorsAlike : left.errors.SameMapping right.errors := fun field =>
    get?_errors_run_congr honeypots verdicts (sameRecord field) (sameErrors field) submitted
  refine ⟨?_, fun field => get?_record_run_congr (sameRecord field) errors otherErrors submitted,
    errorsAlike⟩
  rw [run_accepted, run_accepted, errorsAlike.isEmpty_eq]

/-- A form whose rules look at other fields, submitted in two orders: the errors differ in
their order alone. -/
theorem run_ignores_field_order_of_form :
    let pipeline := (new .builtin .standard).registerAll
      [.filter .pre .every ⟨"trim", .library, Filters.trim⟩,
        .rule .every ⟨"depends_on", ["mail"], .library, fun _ arguments context =>
          .of (Rules.dependsOn context.record arguments)⟩,
        .rule (.field "again") ⟨"matches", ["mail"], .library, fun value arguments context =>
          .of (Rules.matchesFields value context.record arguments)⟩,
        .callback .every Library.honeypot]
    let record : Record := .ofList [("again", .text "x"), ("name", .text "Ann"), ("mail", .text " ")]
    let other : Record := .ofList [("name", .text "Ann"), ("mail", .text " "), ("again", .text "x")]
    let left := pipeline.run record .empty true
    let right := pipeline.run other .empty true
    left.errors.entries = [("again", "depends_on"), ("name", "depends_on")] ∧
      right.errors.entries = [("name", "depends_on"), ("again", "depends_on")] ∧
      left.accepted = right.accepted ∧ left.record.SameMapping right.record ∧
      left.errors.SameMapping right.errors := by
  intro pipeline record other left right
  have sameRecord : record.SameMapping other := by
    intro field
    simp only [record, other, OrderedMap.ofList, OrderedMap.insertAll_cons,
      OrderedMap.insertAll_nil, OrderedMap.get?_insert, OrderedMap.get?_empty]
    split <;> split <;> simp_all
  have rules : ∀ bound ∈ pipeline.rules.members,
      ∃ rule ∈ Library.rules, bound.check = rule.check := by
    intro bound member
    rcases List.mem_cons.mp member with rfl | member
    · exact ⟨Library.rules[2], List.getElem_mem _, rfl⟩
    · cases List.mem_singleton.mp member
      exact ⟨Library.rules[1], List.getElem_mem _, rfl⟩
  have traps : ∀ callback ∈ pipeline.callbacks.members,
      ∃ listed ∈ Library.callbacks, callback.run = listed.run := by
    intro callback member
    cases List.mem_singleton.mp member
    exact ⟨Library.honeypot, List.mem_singleton_self _, rfl⟩
  have alike := run_ignores_field_order pipeline rules traps record other .empty .empty
    sameRecord (fun _ => rfl) true
  exact ⟨by decide, by decide, alike⟩

end Pipeline

end FieldCheck
