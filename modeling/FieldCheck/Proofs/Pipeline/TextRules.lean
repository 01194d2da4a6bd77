import FieldCheck.Proofs.Pipeline.ErrorsOfRun

namespace FieldCheck

namespace Library

/-- The formats and the classes of characters, less telephone numbers and the sets of
characters that a caller puts together. -/
def formatNames : List String :=
  ["email", "email_rfc", "url", "ip", "date", "alpha", "alpha_numeric", "alpha_dash", "digit",
    "numeric", "standard_text", "decimal"]

/-- The lengths that the rule of this name takes telephone numbers to have. The other rules
ask for no lengths. -/
def digitCounts (name : String) (arguments : List String) (config : Config) : List Nat :=
  if name = "phone" then phoneLengths config arguments else []

theorem exists_format {name : String} (named : name ∈ formatNames) :
    ∃ rule, Registry.builtin.rule name = .ok rule ∧ ∀ items arguments context,
      rule.check (.list items) arguments context = .of false := by
  simp only [formatNames, List.mem_cons, List.not_mem_nil, or_false] at named
  rcases named with rfl | rfl | rfl | rfl | rfl | rfl | rfl | rfl | rfl | rfl | rfl | rfl
  all_goals exact ⟨_, rfl, fun _ _ _ => rfl⟩

theorem exists_phone :
    ∃ rule, Registry.builtin.rule "phone" = .ok rule ∧ ∀ items arguments context,
      rule.check (.list items) arguments context =
        .of ((phoneLengths context.config arguments).contains 0) :=
  ⟨_, rfl, fun _ _ _ => rfl⟩

theorem exists_textRule {name : String} (named : name = "phone" ∨ name ∈ formatNames) :
    ∃ rule, Registry.builtin.rule name = .ok rule ∧ ∀ items arguments context,
      rule.check (.list items) arguments context =
        .of ((digitCounts name arguments context.config).contains 0) := by
  rcases named with rfl | format
  · exact exists_phone
  · have notPhone : name ≠ "phone" := by
      rintro rfl
      exact absurd format (by decide)
    obtain ⟨rule, resolved, refuses⟩ := exists_format format
    refine ⟨rule, resolved, fun items arguments context => ?_⟩
    rw [refuses, digitCounts, if_neg notPhone]
    rfl

end Library

namespace Pipeline

variable {pipeline : Pipeline} {record : Record} {field : String} {items : List Value}

/-- A list that was submitted is a list of as many items when the rules come to it. -/
theorem get?_prepare_of_list (pipeline : Pipeline) (errors : ErrorMap)
    (given : record.get? field = some (.list items)) :
    ∃ filtered, (pipeline.prepare record errors).record.get? field = some (.list filtered) ∧
      filtered.length = items.length := by
  obtain ⟨filtered, series, size⟩ :=
    Filter.applyAll_list (pipeline.preFilters.covering field) items
  refine ⟨filtered, ?_, size⟩
  rw [get?_prepare, get?_prepopulate, given, filledIn, ite_self, Option.map_some, series]
  simp

/-- A rule that turns lists down is invoked on every list that is not empty. -/
theorem fails_of_list (rule : BoundRule) (given : record.get? field = some (.list items))
    (some : items ≠ [])
    (refused : rule.check (.list items) rule.arguments (pipeline.context record) = .of false) :
    pipeline.fails record (field, rule) = true := by
  have value : record.value field = .list items := by rw [Record.value, given]; rfl
  have solid : (Value.list items).isBlank = false := by simpa [Value.isBlank] using some
  rw [fails, applicable, verdict, value, refused, solid]
  rfl

/-- Nothing saves a field with a list in it from a rule that turns lists down. -/
theorem mem_errors_run_of_list {registry : Registry} {config : Config}
    {registrations : List Registration} {target : Target} {rule : BoundRule}
    {errors : ErrorMap} (registered : .rule target rule ∈ registrations)
    (covers : target.covers field = true) (given : record.get? field = some (.list items))
    (some : items ≠ [])
    (refused : ∀ items judged, rule.check (.list items) rule.arguments
      (((new registry config).registerAll registrations).context judged) = .of false) :
    field ∈ (((new registry config).registerAll registrations).run record errors
      true).errors.keys := by
  obtain ⟨filtered, prepared, size⟩ := get?_prepare_of_list
    ((new registry config).registerAll registrations) errors given
  have stillSome : filtered ≠ [] := by
    intro empty
    rw [empty, List.length_nil, eq_comm, List.length_eq_zero_iff] at size
    exact some size
  have present := OrderedMap.isSome_get?_iff.mp (Option.isSome_of_eq_some prepared)
  exact mem_errors_run_of_registered registered covers present
    (fails_of_list rule prepared stillSome (refused filtered _))

/-- A format or a class of characters, registered with arguments that it accepts, refuses
every list, and a list with at least one item leaves an error on its field, whatever else is
registered: filters, rules and callbacks of any kind, before or after. A telephone number
does so unless it may have no digits, by its arguments or by the settings. -/
theorem lists_fail_text_rules {name : String}
    (named : name = "phone" ∨ name ∈ Library.formatNames) (arguments : List String) :
    ∃ rule, Registry.builtin.rule name = .ok rule ∧
      (∀ items context, (rule.check (.list items) arguments context).passed =
        (Library.digitCounts name arguments context.config).contains 0) ∧
      (rule.contract.accepts arguments = true →
        ∀ (registry : Registry) (config : Config) (earlier later : List Registration)
          (target : Target), registry.rule name = .ok rule →
        ∃ middle, ((new registry config).registerAll earlier).addRule target ⟨name, arguments⟩ =
            .ok middle ∧
          ∀ field record errors items,
            let pipeline := middle.registerAll later
            target.covers field = true → record.get? field = some (.list items) → items ≠ [] →
            0 ∉ Library.digitCounts name arguments pipeline.config →
            field ∈ (pipeline.run record errors true).errors.keys) := by
  obtain ⟨rule, listed, judges⟩ := Library.exists_textRule named
  refine ⟨rule, listed, fun items context => congrArg Verdict.passed (judges items arguments context),
    fun accepted registry config earlier later target resolved => ?_⟩
  obtain ⟨middle, added, whole⟩ :=
    addRule_after registry config earlier target ⟨name, arguments⟩ resolved accepted
  refine ⟨middle, added, ?_⟩
  intro field record errors items pipeline covers given some noEmptyCount
  have counts : (Library.digitCounts name arguments pipeline.config).contains 0 = false := by
    simpa using noEmptyCount
  have refused : ∀ items judged, rule.check (.list items) arguments (pipeline.context judged) =
      .of false := by
    intro items judged
    rw [judges, context, counts]
  let registrations := earlier ++ (ruleRegistrations target ⟨name, arguments⟩ rule ++ later)
  have series : pipeline = (new registry config).registerAll registrations := whole later
  have registered : .rule target ⟨name, arguments, rule.origin, rule.check⟩ ∈ registrations :=
    List.mem_append_right _ (List.mem_append_left _ (mem_ruleRegistrations target _ rule))
  rw [series] at refused ⊢
  exact mem_errors_run_of_list registered covers given some refused

/-- A list of one telephone number, with blanks around it that a filter takes away. -/
theorem list_of_telephone_numbers_fails :
    ∃ middle,
      ((new .builtin .standard).registerAll
          [.filter .pre .every ⟨"trim", .library, Filters.trim⟩]).addRule .every
            ⟨"phone", ["7", "10"]⟩ = .ok middle ∧
      let pipeline := middle.registerAll [.callback .every Library.honeypot]
      let record : Record := .ofList [("mobile", .list [.text " 555 1234 "])]
      0 ∉ Library.digitCounts "phone" ["7", "10"] pipeline.config ∧
        "mobile" ∈ (pipeline.run record .empty true).errors.keys := by
  obtain ⟨rule, listed, -, fails⟩ := lists_fail_text_rules (.inl rfl) ["7", "10"]
  have accepted : rule.contract.accepts ["7", "10"] = true := by
    cases listed
    decide
  obtain ⟨middle, added, failed⟩ := fails accepted .builtin .standard
    [.filter .pre .every ⟨"trim", .library, Filters.trim⟩] [.callback .every Library.honeypot]
    .every listed
  refine ⟨middle, added, ?_⟩
  intro pipeline record
  have noEmptyCount : 0 ∉ Library.digitCounts "phone" ["7", "10"] pipeline.config := by
    cases added
    decide
  exact ⟨noEmptyCount, failed "mobile" record .empty [.text " 555 1234 "] rfl rfl
    (List.cons_ne_nil _ _) noEmptyCount⟩

/-- Sets of characters let every list through, and so do telephone numbers of no digits. -/
theorem lists_pass_character_sets :
    ∃ first pipeline,
      (new .builtin .standard).addRule (.field "tags") ⟨"chars", ["a-z"]⟩ = .ok first ∧
      first.addRule (.field "phones") ⟨"phone", ["0"]⟩ = .ok pipeline ∧
      let record : Record := .ofList [("tags", .list [.text "<b>"]), ("phones", .list [.text "x"])]
      let after := pipeline.run record .empty true
      after.accepted = true ∧ after.errors.keys = [] :=
  ⟨_, _, rfl, rfl, by decide, by decide⟩

end Pipeline

end FieldCheck
