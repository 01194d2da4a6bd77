import FieldCheck.Proofs.Binary64.Integers
import FieldCheck.Proofs.Data.Collect
import FieldCheck.Proofs.Data.KeyOrder
import FieldCheck.Proofs.Json.Range
import FieldCheck.Target

namespace FieldCheck

namespace Value

structure Plain (scalar : Value) : Prop where
  single : scalar.isList = false
  finite : ∀ x, scalar = .number x → x.isFinite = true

def Storable (value : Value) : Prop :=
  ∀ scalar ∈ value.scalars, scalar.Plain

variable {value scalar : Value} {json : Json}

theorem scalars_of_single (single : scalar.isList = false) : scalar.scalars = [scalar] := by
  cases scalar with
  | list => cases single
  | _ => rfl

theorem Plain.storable (plain : scalar.Plain) : scalar.Storable := by
  intro other member
  rw [scalars_of_single plain.single, List.mem_singleton] at member
  exact member ▸ plain

theorem storable_placeholder (shape : Shape) : shape.placeholder.Storable := by
  cases shape with
  | scalar => exact Plain.storable ⟨rfl, fun _ same => by cases same⟩
  | sequence =>
      intro scalar member
      cases member

theorem storable_mapScalars {f : Value → Value} (keeps : ∀ scalar, scalar.Plain → (f scalar).Plain)
    (storable : value.Storable) : (value.mapScalars f).Storable := by
  cases value with
  | list items =>
      intro scalar member
      obtain ⟨item, among, rfl⟩ := List.mem_map.mp member
      exact keeps item (storable item among)
  | _ => exact (keeps _ (storable _ (List.mem_singleton_self _))).storable

theorem itemsOfJson?_eq_mapM (items : List Json) : itemsOfJson? items = items.mapM ofJson? := by
  induction items with
  | nil => rfl
  | cons item rest restIH =>
      rw [itemsOfJson?, restIH, List.mapM_cons]
      cases ofJson? item <;> cases rest.mapM ofJson? <;> rfl

theorem scalarItems?_eq_some_iff {items kept : List Value} :
    scalarItems? items = some kept ↔ items = kept ∧ ∀ item ∈ kept, item.isList = false := by
  rw [scalarItems?]
  split
  · rename_i nested
    obtain ⟨item, member, isList⟩ := List.any_eq_true.mp nested
    refine iff_of_false (by simp) fun ⟨same, single⟩ => ?_
    rw [single item (same ▸ member)] at isList
    cases isList
  · rename_i single
    simp only [List.any_eq_true, not_exists, not_and, Bool.not_eq_true] at single
    rw [Option.some.injEq]
    exact ⟨fun same => ⟨same, same ▸ single⟩, And.left⟩

theorem ofJson?_array_eq_some_iff {items : List Json} :
    ofJson? (.array items) = some value ↔
      ∃ kept, List.Forall₂ (fun item scalar => ofJson? item = some scalar) items kept ∧
        (∀ scalar ∈ kept, scalar.isList = false) ∧ value = .list kept := by
  simp only [ofJson?, Option.map_eq_some_iff, Option.bind_eq_some_iff, scalarItems?_eq_some_iff,
    itemsOfJson?_eq_mapM, Collect.mapM_eq_some_iff]
  constructor
  · rintro ⟨kept, ⟨_, readItems, rfl, single⟩, rfl⟩
    exact ⟨_, readItems, single, rfl⟩
  · rintro ⟨kept, readItems, single, rfl⟩
    exact ⟨kept, ⟨kept, readItems, rfl, single⟩, rfl⟩

theorem plain_of_ofJson? (inRange : json.InRange) (read : ofJson? json = some value)
    (single : value.isList = false) : value.Plain := by
  refine ⟨single, fun x same => ?_⟩
  subst same
  cases inRange with
  | integer least most =>
      cases read
      simp only [Nat.pow_eq] at least most
      exact Binary64.isFinite_ofInt (by omega)
  | real finite =>
      cases read
      exact finite
  | array =>
      obtain ⟨_, _, _, same⟩ := ofJson?_array_eq_some_iff.mp read
      cases same
  | _ => cases read

theorem storable_of_ofJson? (inRange : json.InRange) (read : ofJson? json = some value) :
    value.Storable := by
  cases value with
  | list scalars =>
      cases inRange with
      | array each =>
          obtain ⟨_, readItems, single, same⟩ := ofJson?_array_eq_some_iff.mp read
          cases same
          intro scalar member
          obtain ⟨item, among, readItem⟩ := Collect.exists_of_mem readItems.flip member
          exact plain_of_ofJson? (each item among) readItem (single scalar member)
      | _ => cases read
  | _ => exact (plain_of_ofJson? inRange read rfl).storable

theorem Plain.ofJson?_toJson (plain : scalar.Plain) : ofJson? scalar.toJson = some scalar := by
  cases scalar with
  | list => cases plain.single
  | number x => simp only [toJson, plain.finite x rfl, if_true, ofJson?]
  | _ => simp only [toJson, ofJson?]

theorem itemsToJson_eq_map (items : List Value) : itemsToJson items = items.map toJson := by
  induction items with
  | nil => rfl
  | cons item rest restIH => rw [itemsToJson, restIH, List.map_cons]

theorem ofJson?_toJson (storable : value.Storable) : ofJson? value.toJson = some value := by
  cases value with
  | list items =>
      rw [toJson, itemsToJson_eq_map, ofJson?_array_eq_some_iff]
      refine ⟨items, ?_, fun item member => (storable item member).single, rfl⟩
      rw [List.forall₂_map_left_iff, List.forall₂_same]
      exact fun item member => (storable item member).ofJson?_toJson
  | _ => exact (storable _ (List.mem_singleton_self _)).ofJson?_toJson

end Value

namespace Record

def Storable (record : Record) : Prop :=
  ∀ field value, record.get? field = some value → value.Storable

theorem storable_of_ofJson? {json : Json} (inRange : json.InRange) {record : Record}
    (read : ofJson? json = some record) : record.Storable := by
  cases inRange with
  | object each =>
      obtain ⟨entries, readMembers, rfl⟩ := Option.map_eq_some_iff.mp read
      intro field value given
      have entry := OrderedMap.mem_of_get?_ofList given
      obtain ⟨member, among, readMember⟩ := Collect.exists_of_mem_mapM readMembers entry
      obtain ⟨other, readValue, same⟩ := Option.map_eq_some_iff.mp readMember
      cases same
      exact Value.storable_of_ofJson? (each member among) readValue
  | _ => cases read

theorem ofJson?_toJson {record : Record} (storable : record.Storable) :
    ofJson? record.toJson = some record := by
  have each : ∀ entry ∈ record.entries,
      ((Value.ofJson? entry.2.toJson).map fun value => (entry.1, value)) = some entry := by
    intro entry member
    have given := OrderedMap.get?_of_mem_entries member
    rw [Value.ofJson?_toJson (storable _ _ given), Option.map_some]
  rw [toJson, ofJson?, Collect.mapM_map_of_each each, Option.map_some, OrderedMap.ofList_entries]

end Record

end FieldCheck
