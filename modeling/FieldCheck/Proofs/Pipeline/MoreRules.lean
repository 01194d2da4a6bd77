import FieldCheck.Library
import FieldCheck.Proofs.Pipeline.RuleStage

namespace FieldCheck

/-! The rule stage of a pipeline and that of a larger one.

With more rules another rule may be the first to fail on a field, the rules behind it are then
not invoked, and the errors come in another order. But a visit that fails under the smaller
pipeline is paid under the larger one, too, and fails there, so its field has an error.
-/

/-- The verdict of a rule is the same whichever rules are exempt from passing over blanks. -/
def BoundRule.IgnoresExemptions (rule : BoundRule) : Prop :=
  ∀ value record config resolver exempt,
    (rule.check value rule.arguments ⟨record, { config with emptyRules := exempt }, resolver⟩).passed =
      (rule.check value rule.arguments ⟨record, config, resolver⟩).passed

/-- No rule of the library looks at the exemptions. -/
theorem Library.ignoresExemptions {rule : Rule} (member : rule ∈ rules) (name : String)
    (arguments : List String) :
    (⟨name, arguments, rule.origin, rule.check⟩ : BoundRule).IgnoresExemptions := by
  intro value record config resolver exempt
  simp only [rules, List.mem_cons, List.not_mem_nil, or_false] at member
  rcases member with rfl | rfl | rfl | rfl | rfl | rfl | rfl | rfl | rfl | rfl | rfl | rfl | rfl |
    rfl | rfl | rfl | rfl | rfl | rfl | rfl <;> rfl

namespace Config

theorem isEmptyExempt_allowEmpty {config : Config} {rule : String}
    (exempt : config.isEmptyExempt rule = true) (other : String) :
    (config.allowEmpty other).isEmptyExempt rule = true := by
  unfold allowEmpty
  split
  · exact exempt
  · simp only [isEmptyExempt, withEmptyRule, Bool.or_eq_true, List.contains_iff_mem,
      List.mem_append] at exempt ⊢
    exact exempt.imp_right .inl

end Config

namespace Groups

variable {α : Type} {groups small large : Groups α} {present : List String}

theorem mem_entryVisits {visit : String × α} : visit ∈ groups.entryVisits present ↔
    ∃ target, visit.2 ∈ (groups.get? target).getD [] ∧ visit.1 ∈ target.fields present := by
  constructor
  · intro visited
    obtain ⟨⟨target, entries⟩, group, visited⟩ := List.mem_flatMap.mp visited
    obtain ⟨entry, among, visited⟩ := List.mem_flatMap.mp visited
    obtain ⟨field, meant, rfl⟩ := List.mem_map.mp visited
    refine ⟨target, ?_, meant⟩
    rw [OrderedMap.get?_of_mem_entries group]
    exact among
  · rintro ⟨target, among, meant⟩
    cases found : groups.get? target with
    | none =>
        rw [found] at among
        cases among
    | some entries =>
        rw [found] at among
        have group := OrderedMap.mem_entries_of_get? found
        exact List.mem_flatMap.mpr ⟨_, group, List.mem_flatMap.mpr
          ⟨_, among, List.mem_map.mpr ⟨_, meant, rfl⟩⟩⟩

/-- Every entry of the smaller groups stands under its target in the larger ones. -/
def Within (small large : Groups α) : Prop :=
  ∀ target, ∀ entry ∈ (small.get? target).getD [], entry ∈ (large.get? target).getD []

theorem within_add (groups : Groups α) (target : Target) (entry : α) :
    groups.Within (groups.add target entry) := by
  intro other kept among
  have added := getD_get?_addAll groups [(target, entry)] other
  rw [addAll, List.foldl_cons, List.foldl_nil] at added
  rw [added]
  exact List.mem_append_left _ among

theorem Within.mem_entryVisits (within : small.Within large) {visit : String × α}
    (visited : visit ∈ small.entryVisits present) : visit ∈ large.entryVisits present := by
  obtain ⟨target, among, meant⟩ := Groups.mem_entryVisits.mp visited
  exact Groups.mem_entryVisits.mpr ⟨target, within target _ among, meant⟩

end Groups

namespace Pipeline

/-- The larger pipeline has all rules of the smaller one, exempts all that the smaller one
exempts, and is otherwise set in the same way. -/
structure Extends (small large : Pipeline) : Prop where
  rules : small.rules.Within large.rules
  exempt : ∀ rule, small.config.isEmptyExempt rule = true → large.config.isEmptyExempt rule = true
  settings : ∃ names, large.config = { small.config with emptyRules := names }
  resolver : large.resolver = small.resolver

variable {pipeline small middle large : Pipeline} {start : Progress} {field : String}

/-- Filters, callbacks and shapes do not count. -/
theorem extends_of_same (rules : large.rules = small.rules) (config : large.config = small.config)
    (resolver : large.resolver = small.resolver) : small.Extends large := by
  refine ⟨fun target rule among => ?_, fun rule exempt => ?_, ⟨_, config⟩, resolver⟩
  · rw [rules]
    exact among
  · rw [config]
    exact exempt

theorem Extends.trans (first : small.Extends middle) (second : middle.Extends large) :
    small.Extends large := by
  obtain ⟨names, middleSettings⟩ := first.settings
  obtain ⟨more, largeSettings⟩ := second.settings
  refine ⟨fun target rule among => second.rules target rule (first.rules target rule among),
    fun rule exempt => second.exempt rule (first.exempt rule exempt), ⟨more, ?_⟩,
    second.resolver.trans first.resolver⟩
  rw [largeSettings, middleSettings]

theorem extends_register (pipeline : Pipeline) {registration : Registration}
    (noResolver : ∀ resolver, registration ≠ .resolver resolver) :
    pipeline.Extends (pipeline.register registration) := by
  cases registration with
  | resolver resolver => exact absurd rfl (noResolver resolver)
  | emptyRule rule =>
      refine ⟨fun _ _ among => among, fun _ exempt => Config.isEmptyExempt_allowEmpty exempt rule,
        ?_, rfl⟩
      simp only [register, allowEmpty, Config.allowEmpty]
      split
      · exact ⟨_, rfl⟩
      · exact ⟨_, rfl⟩
  | rule target rule =>
      exact ⟨Groups.within_add pipeline.rules target rule, fun _ exempt => exempt, ⟨_, rfl⟩, rfl⟩
  | filter stage => cases stage <;> exact extends_of_same rfl rfl rfl
  | shape | callback => exact extends_of_same rfl rfl rfl

theorem extends_registerAll (pipeline : Pipeline) {further : List Registration}
    (noResolver : ∀ resolver, .resolver resolver ∉ further) :
    pipeline.Extends (pipeline.registerAll further) := by
  induction further generalizing pipeline with
  | nil => exact extends_of_same rfl rfl rfl
  | cons registration rest restIH =>
      have first : pipeline.Extends (pipeline.register registration) :=
        pipeline.extends_register fun resolver same =>
          noResolver resolver (same ▸ List.mem_cons_self)
      exact first.trans (restIH _ fun resolver member =>
        noResolver resolver (List.mem_cons_of_mem _ member))

theorem mem_keys_applyRules : field ∈ (pipeline.applyRules start).errors.keys ↔
    field ∈ start.errors.keys ∨ ∃ rule,
      (field, rule) ∈ pipeline.rules.entryVisits start.record.keys ∧
        pipeline.fails start.record (field, rule) = true := by
  rw [← OrderedMap.isSome_get?_iff, applyRules, get?_foldl_ruleStep, Option.isSome_or,
    Option.isSome_map, Bool.or_eq_true, List.find?_isSome, OrderedMap.isSome_get?_iff]
  refine or_congr_right ⟨?_, ?_⟩
  · rintro ⟨visit, visited, selected⟩
    obtain ⟨own, failing⟩ := Bool.and_eq_true_iff.mp selected
    cases of_decide_eq_true own
    exact ⟨visit.2, visited, failing⟩
  · rintro ⟨rule, visited, failing⟩
    exact ⟨_, visited, by rw [failing, decide_eq_true rfl]; rfl⟩

theorem Extends.fails (extended : small.Extends large) {record : Record}
    {visit : String × BoundRule} (ignoring : visit.2.IgnoresExemptions)
    (failing : small.fails record visit = true) : large.fails record visit = true := by
  obtain ⟨applies, turnedDown⟩ := Bool.and_eq_true_iff.mp failing
  obtain ⟨names, settings⟩ := extended.settings
  have sameVerdict : (large.verdict record visit).passed = (small.verdict record visit).passed := by
    rw [verdict, verdict, context, context, settings, extended.resolver]
    exact ignoring _ _ _ _ _
  have stillApplies : large.applicable record visit.1 visit.2 = true := by
    rw [applicable, Bool.or_eq_true] at applies ⊢
    exact applies.imp_right (extended.exempt _)
  rw [Pipeline.fails, stillApplies, sameVerdict]
  exact turnedDown

theorem Extends.mem_keys_applyRules (extended : small.Extends large)
    (ignoring : ∀ rule ∈ small.rules.members, rule.IgnoresExemptions)
    (failed : field ∈ (small.applyRules start).errors.keys) :
    field ∈ (large.applyRules start).errors.keys := by
  rcases Pipeline.mem_keys_applyRules.mp failed with before | ⟨rule, visited, failing⟩
  · exact Pipeline.mem_keys_applyRules.mpr (.inl before)
  · have ruleIgnores := ignoring rule (Groups.mem_members_of_mem_entryVisits visited)
    exact Pipeline.mem_keys_applyRules.mpr (.inr ⟨rule, extended.rules.mem_entryVisits visited,
      extended.fails ruleIgnores failing⟩)

/-- Whatever is registered in addition, rules on any targets and exemptions, a field that has an
error after the rule stage has one after it with the additions as well. Its rules must not look
at the exemptions, and the resolver that they ask must stay. -/
theorem more_rules_excuse_no_field (pipeline : Pipeline) (further : List Registration)
    (noResolver : ∀ resolver, .resolver resolver ∉ further)
    (ignoring : ∀ rule ∈ pipeline.rules.members, rule.IgnoresExemptions) (start : Progress) :
    ∀ field ∈ (pipeline.applyRules start).errors.keys,
      field ∈ ((pipeline.registerAll further).applyRules start).errors.keys :=
  fun _ failed => (pipeline.extends_registerAll noResolver).mem_keys_applyRules ignoring failed

/-- A rule for every field joins a group that comes before the rule of the field, and gives it
another code. -/
theorem more_rules_on_form :
    let required : BoundRule := ⟨"required", [], .library, (Library.rules[0]).check⟩
    let ofLetters : BoundRule := ⟨"alpha", [], .library, (Library.rules[12]).check⟩
    let ofThree : BoundRule := ⟨"length", ["3"], .library, (Library.rules[4]).check⟩
    let pipeline := (new .builtin .standard).registerAll
      [.rule .every required, .rule (.field "name") ofLetters]
    let further : List Registration :=
      [.rule .every ofThree, .emptyRule "length", .rule (.field "motto") ofLetters]
    let start : Progress := ⟨.ofList [("name", .text "x1"), ("motto", .text "abc")], .empty, []⟩
    (∀ resolver, .resolver resolver ∉ further) ∧
      (∀ rule ∈ pipeline.rules.members, rule.IgnoresExemptions) ∧
      (pipeline.applyRules start).errors.entries = [("name", "alpha")] ∧
      ((pipeline.registerAll further).applyRules start).errors.get? "name" = some "length" ∧
      ∀ field ∈ (pipeline.applyRules start).errors.keys,
        field ∈ ((pipeline.registerAll further).applyRules start).errors.keys := by
  intro required ofLetters ofThree pipeline further start
  have noResolver : ∀ resolver, .resolver resolver ∉ further := by
    intro resolver member
    simp [further] at member
  have ignoring : ∀ rule ∈ pipeline.rules.members, rule.IgnoresExemptions := by
    intro rule member
    rcases List.mem_cons.mp member with rfl | member
    · exact Library.ignoresExemptions (List.getElem_mem _) "required" []
    · cases List.mem_singleton.mp member
      exact Library.ignoresExemptions (List.getElem_mem _) "alpha" []
  exact ⟨noResolver, ignoring, by decide, by decide,
    more_rules_excuse_no_field pipeline further noResolver ignoring start⟩

end Pipeline

end FieldCheck
