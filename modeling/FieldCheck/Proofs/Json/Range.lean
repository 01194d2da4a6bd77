import FieldCheck.Json.Source

namespace FieldCheck.Json

inductive InRange : Json → Prop
  | null : InRange .null
  | bool (flag : Bool) : InRange (.bool flag)
  | integer {value : Int} (least : -(Nat.pow 2 63 : Nat) ≤ value)
      (most : value < (Nat.pow 2 64 : Nat)) : InRange (.integer value)
  | real {value : Binary64} (finite : value.isFinite = true) : InRange (.real value)
  | string (text : String) : InRange (.string text)
  | array {items : List Json} (each : ∀ item ∈ items, InRange item) : InRange (.array items)
  | object {members : List (String × Json)} (each : ∀ member ∈ members, InRange member.2) :
      InRange (.object members)

theorem inRange_of_number {written : NumberSource} {json : Json}
    (read : written.value? = some json) : json.InRange := by
  simp only [NumberSource.value?, Nat.pow_eq] at read
  split at read
  · rename_i fits
    cases read
    simp only [Bool.and_eq_true, decide_eq_true_eq] at fits
    exact .integer (by simp only [Nat.pow_eq]; omega) (by simp only [Nat.pow_eq]; omega)
  · split at read
    · rename_i fits
      cases read
      simp only [Bool.and_eq_true, decide_eq_true_eq] at fits
      exact .integer (by simp only [Nat.pow_eq]; omega) (by simp only [Nat.pow_eq]; omega)
    · split at read
      · rename_i finite
        cases read
        exact .real finite
      · cases read

mutual

theorem inRange_of_value? : ∀ {source : Source} {json : Json},
    source.value? = some json → json.InRange
  | .null, _, read => by
      cases read
      exact .null
  | .bool flag, _, read => by
      cases read
      exact .bool flag
  | .number _, _, read => inRange_of_number read
  | .string text, _, read => by
      obtain ⟨content, _, rfl⟩ := Option.map_eq_some_iff.mp read
      exact .string content
  | .array items, _, read => by
      obtain ⟨values, readItems, rfl⟩ := Option.map_eq_some_iff.mp read
      exact .array (inRange_of_itemValues? readItems)
  | .object members, _, read => by
      obtain ⟨values, readMembers, rfl⟩ := Option.map_eq_some_iff.mp read
      exact .object (inRange_of_memberValues? readMembers)

theorem inRange_of_itemValues? : ∀ {sources : List Source} {items : List Json},
    Source.itemValues? sources = some items → ∀ item ∈ items, item.InRange
  | [], _, read => by
      cases read
      simp
  | source :: rest, _, read => by
      simp only [Source.itemValues?] at read
      split at read
      · rename_i value values readFirst readRest
        cases read
        exact List.forall_mem_cons.mpr
          ⟨inRange_of_value? readFirst, inRange_of_itemValues? readRest⟩
      · cases read

theorem inRange_of_memberValues? : ∀ {sources : List (Option String × Source)}
    {members : List (String × Json)},
    Source.memberValues? sources = some members → ∀ member ∈ members, member.2.InRange
  | [], _, read => by
      cases read
      simp
  | (name, source) :: rest, _, read => by
      simp only [Source.memberValues?] at read
      split at read
      · rename_i key value values readFirst readRest
        cases read
        exact List.forall_mem_cons.mpr
          ⟨inRange_of_value? readFirst, inRange_of_memberValues? readRest⟩
      · cases read

end

theorem inRange_of_read? {text : String} {json : Json} (read : read? text = some json) :
    json.InRange := by
  obtain ⟨source, _, meaning⟩ := Option.bind_eq_some_iff.mp read
  exact inRange_of_value? meaning

end FieldCheck.Json
