import FieldCheck.Library
import FieldCheck.Proofs.Contract.Spelling
import Mathlib.Data.List.Forall2
import Mathlib.Data.List.Nodup

namespace FieldCheck

variable {arguments : List String}

theorem Contract.accepts_iff {contract : Contract} : contract.accepts arguments = true ↔
    contract.admitsCount arguments.length = true ∧
      ∀ argument ∈ arguments, contract.kind.admits argument = true := by
  rw [accepts, fault?]
  cases counted : contract.admitsCount arguments.length with
  | true => simp
  | false => simp

theorem Contract.accepts_between_iff {least most : Nat} {kind : ArgumentKind} :
    (between least most kind).accepts arguments = true ↔
      (least ≤ arguments.length ∧ arguments.length ≤ most) ∧
        ∀ argument ∈ arguments, kind.admits argument = true := by
  have counts : (between least most kind).admitsCount arguments.length =
      (decide (least ≤ arguments.length) && decide (arguments.length ≤ most)) := rfl
  rw [accepts_iff, counts, Bool.and_eq_true, decide_eq_true_eq, decide_eq_true_eq]
  rfl

/-- The values that arguments spell and a reader reads, one for each of them and in order. -/
structure Spelled {α : Type} (read : String → Option α) (spells : String → α → Prop)
    (arguments : List String) (values : List α) : Prop where
  spells : List.Forall₂ spells arguments values
  reads : arguments.map read = values.map some

abbrev SpelledCounts : List String → List Nat → Prop := Spelled readCount? SpellsCount

abbrev SpelledFlags : List String → List Bool → Prop := Spelled readFlag? SpellsFlag

section Spelled

variable {α : Type} {read : String → Option α} {spells : String → α → Prop} {values : List α}

theorem exists_spelled (exact : ∀ argument value, read argument = some value → spells argument value)
    (each : ∀ argument ∈ arguments, (read argument).isSome = true) :
    ∃ values, Spelled read spells arguments values := by
  induction arguments with
  | nil => exact ⟨[], .nil, rfl⟩
  | cons argument rest restIH =>
      obtain ⟨first, later⟩ := List.forall_mem_cons.mp each
      obtain ⟨value, reading⟩ := Option.isSome_iff_exists.mp first
      obtain ⟨values, spelled, readings⟩ := restIH later
      refine ⟨value :: values, .cons (exact argument value reading) spelled, ?_⟩
      rw [List.map_cons, List.map_cons, reading, readings]

theorem Spelled.length_eq (spelled : Spelled read spells arguments values) :
    values.length = arguments.length :=
  spelled.spells.length_eq.symm

theorem Spelled.filterMap_eq (spelled : Spelled read spells arguments values) :
    arguments.filterMap read = values :=
  calc arguments.filterMap read
      = (arguments.map read).filterMap id := by rw [List.filterMap_map, Function.id_comp]
    _ = (values.map some).filterMap id := by rw [spelled.reads]
    _ = values := by simp

theorem Spelled.getElem?_bind (spelled : Spelled read spells arguments values) (index : Nat) :
    arguments[index]?.bind read = values[index]? :=
  calc arguments[index]?.bind read
      = (arguments.map read)[index]?.join := by
        rw [List.getElem?_map]
        cases arguments[index]? <;> rfl
    _ = (values.map some)[index]?.join := by rw [spelled.reads]
    _ = values[index]? := by
        rw [List.getElem?_map]
        cases values[index]? <;> rfl

end Spelled

/-- The bounds that one or two arguments spell. -/
inductive SpellBounds : List String → Rules.LengthBounds → Prop
  | exactly {argument : String} {count : Nat} :
      SpellsCount argument count → SpellBounds [argument] (.exactly count)
  | range {first second : String} {least most : Nat} :
      SpellsCount first least → SpellsCount second most →
        SpellBounds [first, second] (.range least most)

/-- The counts of digits that two arguments at most spell. -/
inductive SpellFormat : List String → Rules.DecimalFormat → Prop
  | free : SpellFormat [] ⟨none, none⟩
  | places {argument : String} {places : Nat} :
      SpellsCount argument places → SpellFormat [argument] ⟨none, some places⟩
  | digits {first second : String} {digits places : Nat} :
      SpellsCount first digits → SpellsCount second places →
        SpellFormat [first, second] ⟨some digits, some places⟩

theorem exists_readCount {argument : String}
    (admitted : ArgumentKind.unsigned.admits argument = true) :
    ∃ count, readCount? argument = some count ∧ SpellsCount argument count := by
  obtain ⟨count, reading⟩ := Option.isSome_iff_exists.mp admitted
  exact ⟨count, reading, readCount?_eq_some_iff.mp reading⟩

theorem exists_bounds_of_accepts
    (accepted : (Contract.between 1 2 .unsigned).accepts arguments = true) :
    ∃ bounds, SpellBounds arguments bounds ∧
      Rules.LengthBounds.ofArguments? arguments = some bounds := by
  obtain ⟨⟨least, most⟩, each⟩ := Contract.accepts_between_iff.mp accepted
  match arguments with
  | [] => exact absurd least (by decide)
  | [argument] =>
      obtain ⟨count, reading, spells⟩ := exists_readCount (each argument (by simp))
      exact ⟨_, .exactly spells, by simp [Rules.LengthBounds.ofArguments?, reading]⟩
  | [first, second] =>
      obtain ⟨least, firstReading, firstSpells⟩ := exists_readCount (each first (by simp))
      obtain ⟨most, secondReading, secondSpells⟩ := exists_readCount (each second (by simp))
      refine ⟨_, .range firstSpells secondSpells, ?_⟩
      simp [Rules.LengthBounds.ofArguments?, firstReading, secondReading]
  | _ :: _ :: _ :: _ => simp at most

theorem spellFormat_of_accepts
    (accepted : (Contract.between 0 2 .unsigned).accepts arguments = true) :
    SpellFormat arguments (Rules.DecimalFormat.ofArguments arguments) := by
  obtain ⟨⟨-, most⟩, each⟩ := Contract.accepts_between_iff.mp accepted
  match arguments with
  | [] => exact .free
  | [argument] =>
      obtain ⟨places, reading, spells⟩ := exists_readCount (each argument (by simp))
      rw [Rules.DecimalFormat.ofArguments, reading]
      exact .places spells
  | [first, second] =>
      obtain ⟨digits, firstReading, firstSpells⟩ := exists_readCount (each first (by simp))
      obtain ⟨places, secondReading, secondSpells⟩ := exists_readCount (each second (by simp))
      rw [Rules.DecimalFormat.ofArguments, firstReading, secondReading]
      exact .digits firstSpells secondSpells
  | _ :: _ :: _ :: _ => simp at most

theorem exists_counts_of_accepts {least : Nat}
    (accepted : (Contract.atLeast least .unsigned).accepts arguments = true) :
    ∃ counts, SpelledCounts arguments counts :=
  exists_spelled (fun _ _ => readCount?_eq_some_iff.mp) (Contract.accepts_iff.mp accepted).2

theorem exists_flags_of_accepts {most : Nat}
    (accepted : (Contract.between 0 most .flag).accepts arguments = true) :
    ∃ flags, SpelledFlags arguments flags ∧ flags.length ≤ most := by
  obtain ⟨⟨-, within⟩, each⟩ := Contract.accepts_between_iff.mp accepted
  obtain ⟨flags, spelled⟩ := exists_spelled (fun _ _ => readFlag?_eq_some_iff.mp) each
  exact ⟨flags, spelled, spelled.length_eq ▸ within⟩

theorem Spelled.phoneLengths_eq {counts : List Nat} (spelled : SpelledCounts arguments counts)
    (config : Config) : Library.phoneLengths config arguments =
      if arguments = [] then config.phoneLengths else counts := by
  rw [Library.phoneLengths, spelled.filterMap_eq]
  cases spelled.spells with
  | nil => rfl
  | cons => rfl

theorem Spelled.flag_eq {flags : List Bool} (spelled : SpelledFlags arguments flags)
    (index : Nat) : Library.flag arguments index = flags[index]?.getD false := by
  rw [Library.flag, spelled.getElem?_bind]

namespace Library

variable {rule : Rule}

theorem names_nodup : (rules.map Rule.name).Nodup := by decide

/-- Names tell the rules of the library apart. -/
theorem eq_of_name {name : String} {known : Rule} (member : rule ∈ rules)
    (named : rule.name = name)
    (found : rules.find? (fun other => other.name == name) = some known) : rule = known := by
  have listed : known ∈ rules := List.mem_of_find?_eq_some found
  have knownName : known.name = name := by simpa using List.find?_some found
  exact List.inj_on_of_nodup_map names_nodup member listed (named.trans knownName.symm)

theorem length_rule (member : rule ∈ rules) (named : rule.name = "length") :
    rule.contract = .between 1 2 .unsigned ∧ ∀ value arguments context,
      rule.check value arguments context =
        .of (match Rules.LengthBounds.ofArguments? arguments with
          | some bounds => Rules.hasLength value bounds
          | none => false) := by
  obtain rfl := eq_of_name member named rfl
  exact ⟨rfl, fun _ _ _ => rfl⟩

theorem decimal_rule (member : rule ∈ rules) (named : rule.name = "decimal") :
    rule.contract = .between 0 2 .unsigned ∧ ∀ value arguments context,
      rule.check value arguments context =
        .of (Rules.decimal value.toText.toList (.ofArguments arguments)) := by
  obtain rfl := eq_of_name member named rfl
  exact ⟨rfl, fun _ _ _ => rfl⟩

theorem phone_rule (member : rule ∈ rules) (named : rule.name = "phone") :
    rule.contract = .atLeast 0 .unsigned ∧ ∀ value arguments context,
      rule.check value arguments context =
        .of (Rules.phone value.toText.toList (phoneLengths context.config arguments)) := by
  obtain rfl := eq_of_name member named rfl
  exact ⟨rfl, fun _ _ _ => rfl⟩

theorem ip_rule (member : rule ∈ rules) (named : rule.name = "ip") :
    rule.contract = .between 0 2 .flag ∧ ∀ value arguments context,
      rule.check value arguments context =
        .of (Rules.ip value.toText.toList ⟨flag arguments 0, flag arguments 1⟩) := by
  obtain rfl := eq_of_name member named rfl
  exact ⟨rfl, fun _ _ _ => rfl⟩

def characterClasses : List (String × (List Char → Bool → Bool)) :=
  [("alpha", Rules.alpha), ("alpha_numeric", Rules.alphaNumeric),
    ("alpha_dash", Rules.alphaDash), ("digit", Rules.digit)]

theorem class_rule {judge : List Char → Bool → Bool} (member : rule ∈ rules)
    (listed : (rule.name, judge) ∈ characterClasses) :
    rule = classRule rule.name judge := by
  simp only [characterClasses, List.mem_cons, Prod.mk.injEq, List.not_mem_nil, or_false] at listed
  rcases listed with ⟨named, rfl⟩ | ⟨named, rfl⟩ | ⟨named, rfl⟩ | ⟨named, rfl⟩
  all_goals
    obtain rfl := eq_of_name member named rfl
    rfl

/-- The rules that take their arguments for numbers or flags. -/
def readers : List String :=
  ["length", "decimal", "phone", "ip"] ++ characterClasses.map Prod.fst

theorem exists_reader : ∀ name ∈ readers, ∃ rule ∈ rules, rule.name = name := by decide

theorem kind_of_not_reader : ∀ rule ∈ rules, rule.name ∉ readers → rule.contract.kind = .text := by
  decide

end Library

/-- The rule goes by all that its arguments spell. One that is no reader takes them as they
stand. -/
structure Rule.Heeds (rule : Rule) (arguments : List String) : Prop where
  length : rule.name = "length" → ∃ bounds, SpellBounds arguments bounds ∧
    Rules.LengthBounds.ofArguments? arguments = some bounds ∧
    ∀ value context, rule.check value arguments context = .of (Rules.hasLength value bounds)
  decimal : rule.name = "decimal" → ∃ format, SpellFormat arguments format ∧
    Rules.DecimalFormat.ofArguments arguments = format ∧
    ∀ value context, rule.check value arguments context =
      .of (Rules.decimal value.toText.toList format)
  phone : rule.name = "phone" → ∃ counts, SpelledCounts arguments counts ∧
    ∀ value context, rule.check value arguments context =
      .of (Rules.phone value.toText.toList
        (if arguments = [] then context.config.phoneLengths else counts))
  ip : rule.name = "ip" → ∃ flags, SpelledFlags arguments flags ∧ flags.length ≤ 2 ∧
    ∀ value context, rule.check value arguments context =
      .of (Rules.ip value.toText.toList ⟨flags[0]?.getD false, flags[1]?.getD false⟩)
  characterClass : ∀ judge, (rule.name, judge) ∈ Library.characterClasses →
    ∃ flags, SpelledFlags arguments flags ∧ flags.length ≤ 1 ∧
      ∀ value context, rule.check value arguments context =
        .of (judge value.toText.toList (flags[0]?.getD false))
  others : rule.name ∉ Library.readers → rule.contract.kind = .text

theorem Library.heeds_accepted_arguments {rule : Rule} (member : rule ∈ rules)
    (accepted : rule.contract.accepts arguments = true) : rule.Heeds arguments where
  length named := by
    obtain ⟨contract, checks⟩ := length_rule member named
    obtain ⟨bounds, spelled, reading⟩ := exists_bounds_of_accepts (contract ▸ accepted)
    exact ⟨bounds, spelled, reading, fun value context => by rw [checks, reading]⟩
  decimal named := by
    obtain ⟨contract, checks⟩ := decimal_rule member named
    exact ⟨_, spellFormat_of_accepts (contract ▸ accepted), rfl, fun value context =>
      checks value arguments context⟩
  phone named := by
    obtain ⟨contract, checks⟩ := phone_rule member named
    obtain ⟨counts, spelled⟩ := exists_counts_of_accepts (contract ▸ accepted)
    exact ⟨counts, spelled, fun value context => by rw [checks, spelled.phoneLengths_eq]⟩
  ip named := by
    obtain ⟨contract, checks⟩ := ip_rule member named
    obtain ⟨flags, spelled, within⟩ := exists_flags_of_accepts (contract ▸ accepted)
    exact ⟨flags, spelled, within, fun value context => by
      rw [checks, spelled.flag_eq, spelled.flag_eq]⟩
  characterClass judge listed := by
    have isClass := class_rule member listed
    have contract : rule.contract = .between 0 1 .flag := by rw [isClass]; rfl
    obtain ⟨flags, spelled, within⟩ := exists_flags_of_accepts (contract ▸ accepted)
    refine ⟨flags, spelled, within, fun value context => ?_⟩
    rw [← spelled.flag_eq, isClass]
    rfl
  others := kind_of_not_reader rule member

theorem Library.padded_lengths_are_heeded : ∃ rule ∈ rules, rule.name = "phone" ∧
    rule.contract.accepts [" +007", "010\t", "18446744073709551615"] = true ∧
    ∀ value context, rule.check value [" +007", "010\t", "18446744073709551615"] context =
      .of (Rules.phone value.toText.toList [7, 10, 18446744073709551615]) := by
  obtain ⟨rule, member, named⟩ := exists_reader "phone" (by decide)
  have accepted : rule.contract.accepts [" +007", "010\t", "18446744073709551615"] = true := by
    rw [(phone_rule member named).1]
    decide
  obtain ⟨counts, spelled, checks⟩ := (heeds_accepted_arguments member accepted).phone named
  have read : [" +007", "010\t", "18446744073709551615"].filterMap readCount? =
      [7, 10, 18446744073709551615] := by decide
  rw [← read, spelled.filterMap_eq]
  exact ⟨rule, member, named, accepted, checks⟩

/-- Without arguments, telephone numbers are judged by more lengths than there are arguments. -/
theorem Library.phone_lengths_without_arguments : ∃ rule ∈ rules, rule.name = "phone" ∧
    rule.contract.accepts [] = true ∧ ¬∃ counts : List Nat,
      counts.length = ([] : List String).length ∧ ∀ value context,
        rule.check value [] context = .of (Rules.phone value.toText.toList counts) := by
  obtain ⟨rule, member, named⟩ := exists_reader "phone" (by decide)
  obtain ⟨contract, checks⟩ := phone_rule member named
  refine ⟨rule, member, named, by rw [contract]; decide, ?_⟩
  rintro ⟨counts, noCounts, judgedBy⟩
  -- No length at all would refuse every number.
  cases List.length_eq_zero_iff.mp noCounts
  have sevenDigits := judgedBy (.text "5551234") ⟨.empty, .standard, none⟩
  rw [checks] at sevenDigits
  exact absurd sevenDigits (by decide)

end FieldCheck
