import FieldCheck.Proofs.Binary64.Nearest
import FieldCheck.Proofs.Value.Storable

namespace FieldCheck

namespace Json

inductive IsScalar : Json → Prop
  | null : IsScalar .null
  | bool (flag : Bool) : IsScalar (.bool flag)
  | integer (value : Int) : IsScalar (.integer value)
  | real (x : Binary64) : IsScalar (.real x)
  | string (content : String) : IsScalar (.string content)

inductive IsFlat : Json → Prop
  | scalar {json : Json} (single : json.IsScalar) : IsFlat json
  | array {items : List Json} (each : ∀ item ∈ items, item.IsScalar) : IsFlat (.array items)

end Json

namespace Value

/-- The value has the kind and the content of a JSON value. An integer denotes the number it
rounds to, and an array, of any depth, the list of what its items denote. -/
inductive Denotes : Json → Value → Prop
  | null : Denotes .null .null
  | bool (flag : Bool) : Denotes (.bool flag) (.bool flag)
  | integer {value : Int} {x : Binary64} (rounded : Binary64.RoundsTo value x) :
      Denotes (.integer value) (.number x)
  | real (x : Binary64) : Denotes (.real x) (.number x)
  | string (content : String) : Denotes (.string content) (.text content)
  | array {items : List Json} {values : List Value} (each : List.Forall₂ Denotes items values) :
      Denotes (.array items) (.list values)

variable {json : Json} {value : Value}

mutual

theorem denotes_of_ofJson? : ∀ {json : Json} {value : Value},
    ofJson? json = some value → Denotes json value
  | .null, _, read => by
      cases read
      exact .null
  | .bool flag, _, read => by
      cases read
      exact .bool flag
  | .integer value, _, read => by
      cases read
      exact .integer (Binary64.roundsTo_ofInt value)
  | .real x, _, read => by
      cases read
      exact .real x
  | .string content, _, read => by
      cases read
      exact .string content
  | .array items, _, read => by
      -- The items have been read in full when a list among them is looked for.
      obtain ⟨_, readScalars, rfl⟩ := Option.map_eq_some_iff.mp read
      obtain ⟨values, readItems, kept⟩ := Option.bind_eq_some_iff.mp readScalars
      obtain ⟨rfl, _⟩ := scalarItems?_eq_some_iff.mp kept
      exact .array (denotes_of_itemsOfJson? readItems)

theorem denotes_of_itemsOfJson? : ∀ {items : List Json} {values : List Value},
    itemsOfJson? items = some values → List.Forall₂ Denotes items values
  | [], _, read => by
      cases read
      exact .nil
  | item :: rest, _, read => by
      rw [itemsOfJson?] at read
      split at read
      · rename_i first others readFirst readRest
        cases read
        exact .cons (denotes_of_ofJson? readFirst) (denotes_of_itemsOfJson? readRest)
      · cases read

end

theorem flat_of_ofJson? (read : ofJson? json = some value) : value.Flat := by
  cases json with
  | array items =>
      obtain ⟨kept, _, single, rfl⟩ := ofJson?_array_eq_some_iff.mp read
      exact single
  | object => cases read
  | _ =>
      cases read
      trivial

theorem Denotes.isScalar (denotes : Denotes json value) (single : value.isList = false) :
    json.IsScalar := by
  cases denotes with
  | null => exact .null
  | bool flag => exact .bool flag
  | integer => exact .integer _
  | real x => exact .real x
  | string content => exact .string content
  | array => cases single

theorem Denotes.isFlat (denotes : Denotes json value) (flat : value.Flat) : json.IsFlat := by
  cases denotes with
  | array each =>
      refine .array fun item member => ?_
      obtain ⟨result, among, denotes⟩ := Collect.exists_of_mem each member
      exact denotes.isScalar (flat result among)
  | null => exact .scalar .null
  | bool flag => exact .scalar (.bool flag)
  | integer => exact .scalar (.integer _)
  | real x => exact .scalar (.real x)
  | string content => exact .scalar (.string content)

theorem exists_ofJson?_of_isScalar (single : json.IsScalar) :
    ∃ value, ofJson? json = some value ∧ value.isList = false := by
  cases single <;> exact ⟨_, rfl, rfl⟩

theorem exists_ofJson?_of_isFlat (flat : json.IsFlat) : ∃ value, ofJson? json = some value := by
  cases flat with
  | scalar single =>
      obtain ⟨value, read, _⟩ := exists_ofJson?_of_isScalar single
      exact ⟨value, read⟩
  | @array items each =>
      obtain ⟨values, readItems⟩ := Collect.exists_mapM_iff.mpr fun item member =>
        (exists_ofJson?_of_isScalar (each item member)).imp fun _ => And.left
      have readItems := Collect.mapM_eq_some_iff.mp readItems
      refine ⟨.list values, ofJson?_array_eq_some_iff.mpr ⟨values, readItems, ?_, rfl⟩⟩
      intro scalar member
      obtain ⟨item, among, readItem⟩ := Collect.exists_of_mem readItems.flip member
      obtain ⟨value, read, single⟩ := exists_ofJson?_of_isScalar (each item among)
      cases readItem.symm.trans read
      exact single

theorem exists_ofJson?_iff : (∃ value, ofJson? json = some value) ↔ json.IsFlat :=
  ⟨fun ⟨_, read⟩ => (denotes_of_ofJson? read).isFlat (flat_of_ofJson? read),
    exists_ofJson?_of_isFlat⟩

end Value

namespace Record

variable {members : List (String × Json)} {record : Record}

theorem exists_ofJson?_object_iff :
    (∃ record, ofJson? (.object members) = some record) ↔
      ∀ member ∈ members, member.2.IsFlat := by
  rw [← Option.isSome_iff_exists, ofJson?, Option.isSome_map, Option.isSome_iff_exists,
    Collect.exists_mapM_iff]
  simp only [← Value.exists_ofJson?_iff, ← Option.isSome_iff_exists, Option.isSome_map]

theorem matches_of_ofJson? (read : ofJson? (.object members) = some record) :
    Assoc.Matches Value.Denotes (OrderedMap.ofList members).entries record.entries := by
  obtain ⟨entries, readMembers, rfl⟩ := Option.map_eq_some_iff.mp read
  apply OrderedMap.matches_ofList
  refine (Collect.mapM_eq_some_iff.mp readMembers).imp fun member entry readMember => ?_
  obtain ⟨value, readValue, rfl⟩ := Option.map_eq_some_iff.mp readMember
  exact ⟨rfl, Value.denotes_of_ofJson? readValue⟩

theorem flat_of_ofJson? (read : ofJson? (.object members) = some record) :
    ∀ field value, record.get? field = some value → value.Flat := by
  obtain ⟨entries, readMembers, rfl⟩ := Option.map_eq_some_iff.mp read
  intro field value given
  have member := OrderedMap.mem_of_get?_ofList given
  obtain ⟨_, _, readMember⟩ := Collect.exists_of_mem_mapM readMembers member
  obtain ⟨_, readValue, same⟩ := Option.map_eq_some_iff.mp readMember
  cases same
  exact Value.flat_of_ofJson? readValue

/-- A record is read exactly from an object whose members are flat. It has the names of the
members in their order, each with what its member denotes, and no list inside a list. A name
that is repeated keeps its first place, and its last member counts. -/
theorem reads_flat_objects (json : Json) :
    ((∃ record, ofJson? json = some record) ↔
      ∃ members, json = .object members ∧ ∀ member ∈ members, member.2.IsFlat) ∧
    ∀ record, ofJson? json = some record → ∃ members, json = .object members ∧
      ((Assoc.keys members).Nodup → Assoc.Matches Value.Denotes members record.entries) ∧
      Assoc.Matches Value.Denotes (OrderedMap.ofList members).entries record.entries ∧
      ∀ field value, record.get? field = some value → value.Flat := by
  cases json with
  | object members =>
      refine ⟨by simp [exists_ofJson?_object_iff], fun record read => ⟨members, rfl, ?_⟩⟩
      have matched := matches_of_ofJson? read
      refine ⟨fun nodup => ?_, matched, flat_of_ofJson? read⟩
      rwa [OrderedMap.entries_ofList_of_nodup nodup] at matched
  | _ =>
      refine ⟨iff_of_false (by simp [ofJson?]) (by simp), fun record read => ?_⟩
      cases read

/-- A form with every kind of scalar, alone and in a list, is read. -/
theorem reads_form :
    let members : List (String × Json) :=
      [("size", .integer (2 ^ 53 + 1)), ("tags", .array [.null, .bool true, .string "new"])]
    ∃ record, ofJson? (.object members) = some record ∧
      Assoc.Matches Value.Denotes members record.entries := by
  intro members
  obtain ⟨accepted, read⟩ := reads_flat_objects (.object members)
  have flat : ∀ member ∈ members, member.2.IsFlat := by
    intro member among
    rcases List.mem_cons.mp among with rfl | among
    · exact .scalar (.integer _)
    · cases List.mem_singleton.mp among
      refine .array fun item among => ?_
      simp only [List.mem_cons, List.not_mem_nil, or_false] at among
      rcases among with rfl | rfl | rfl
      · exact .null
      · exact .bool true
      · exact .string "new"
  obtain ⟨record, given⟩ := accepted.mpr ⟨members, rfl, flat⟩
  obtain ⟨_, same, distinctNames, _⟩ := read record given
  cases same
  exact ⟨record, given, distinctNames (by decide)⟩

end Record

end FieldCheck
