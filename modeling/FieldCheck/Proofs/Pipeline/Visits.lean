import FieldCheck.Pipeline.Run
import FieldCheck.Proofs.Pipeline.Registration

namespace FieldCheck.Groups

variable {α : Type}

/-- The visits of a stage that goes entry by entry, read off the registrations: targets in
the order of their first registration, and under each its entries in the order of theirs. An
entry for every field visits all fields of the record in their order, an entry for one field
visits that field, be it in the record or not. -/
def registeredVisits (entries : List (Target × α)) (present : List String) :
    List (String × α) :=
  (distinct (entries.map Prod.fst)).flatMap fun target =>
    (entriesOf target entries).flatMap fun entry =>
      match target with
      | .every => present.map fun field => (field, entry)
      | .field name => [(name, entry)]

theorem entryVisits_addAll_empty (entries : List (Target × α)) (present : List String) :
    (addAll .empty entries).entryVisits present = registeredVisits entries present := by
  rw [entryVisits, entries_addAll_empty, List.flatMap_map, registeredVisits]
  congr 1
  funext target
  cases target <;> rfl

/-- The entries of all groups whose target covers a field. -/
def covering (groups : Groups α) (field : String) : List α :=
  groups.entries.flatMap fun (target, entries) => if target.covers field then entries else []

/-- The entries registered for a field, on the field itself or on every field: targets in
the order of their first registration, under each its entries in the order of theirs. -/
def registeredFor (field : String) (entries : List (Target × α)) : List α :=
  (distinct (entries.map Prod.fst)).flatMap fun target =>
    if target = .every ∨ target = .field field then entriesOf target entries else []

theorem covering_addAll_empty (entries : List (Target × α)) (field : String) :
    (addAll .empty entries).covering field = registeredFor field entries := by
  rw [covering, entries_addAll_empty, List.flatMap_map, registeredFor]
  congr 1
  funext target
  cases target <;> simp [Target.covers]

theorem mem_covering_addAll_empty {entries : List (Target × α)} {target : Target} {entry : α}
    {field : String} (registered : (target, entry) ∈ entries)
    (covers : target.covers field = true) :
    entry ∈ (addAll .empty entries).covering field := by
  have own : target ∈ distinct (entries.map Prod.fst) :=
    mem_distinct.mpr (List.mem_map.mpr ⟨_, registered, rfl⟩)
  have member : entry ∈ entriesOf target entries :=
    List.mem_map.mpr ⟨_, List.mem_filter.mpr ⟨registered, decide_eq_true rfl⟩, rfl⟩
  rw [covering, entries_addAll_empty, List.flatMap_map]
  refine List.mem_flatMap.mpr ⟨target, own, ?_⟩
  simpa [covers] using member

theorem mem_fieldNames {groups : Groups α} {field : String} :
    field ∈ groups.fieldNames ↔ Target.field field ∈ groups.keys := by
  rw [fieldNames, List.mem_filterMap]
  constructor
  · rintro ⟨target, member, named⟩
    cases target with
    | every => cases named
    | field name => cases named; exact member
  · intro member
    exact ⟨_, member, rfl⟩

theorem mem_of_mem_fields {groups : Groups α} {present : List String} {target : Target}
    {entries : List α} {field : String} (group : (target, entries) ∈ groups.entries)
    (meant : field ∈ target.fields present) :
    field ∈ present ∨ field ∈ groups.fieldNames := by
  cases target with
  | every => exact .inl meant
  | field name =>
      cases List.mem_singleton.mp meant
      exact .inr (mem_fieldNames.mpr (List.mem_map.mpr ⟨_, group, rfl⟩))

/-- The visits of a stage that goes field by field, if no field comes up on the way. -/
def fieldVisits (groups : Groups α) (present : List String) : List (String × α) :=
  groups.entries.flatMap (groupVisits present)

theorem mem_of_mem_fieldVisits {groups : Groups α} {present : List String}
    {visit : String × α} (visited : visit ∈ groups.fieldVisits present) :
    visit.1 ∈ present ∨ visit.1 ∈ groups.fieldNames := by
  obtain ⟨⟨target, entries⟩, group, visited⟩ := List.mem_flatMap.mp visited
  obtain ⟨field, meant, visited⟩ := List.mem_flatMap.mp visited
  obtain ⟨entry, _, rfl⟩ := List.mem_map.mp visited
  exact mem_of_mem_fields group meant

theorem mem_of_mem_entryVisits {groups : Groups α} {present : List String}
    {visit : String × α} (visited : visit ∈ groups.entryVisits present) :
    visit.1 ∈ present ∨ visit.1 ∈ groups.fieldNames := by
  obtain ⟨⟨target, entries⟩, group, visited⟩ := List.mem_flatMap.mp visited
  obtain ⟨entry, _, visited⟩ := List.mem_flatMap.mp visited
  obtain ⟨field, meant, rfl⟩ := List.mem_map.mp visited
  exact mem_of_mem_fields group meant

theorem filter_flatMap_fields {present : List String} (field : String) (entries : List α)
    (nodup : present.Nodup) :
    (present.flatMap fun other => entries.map fun entry => (other, entry)).filter
        (·.1 = field) =
      if field ∈ present then entries.map fun entry => (field, entry) else [] := by
  induction present with
  | nil => rfl
  | cons head rest restIH =>
      obtain ⟨fresh, restNodup⟩ := List.nodup_cons.mp nodup
      rw [List.flatMap_cons, List.filter_append, restIH restNodup]
      by_cases same : head = field
      · subst same
        rw [if_neg fresh, if_pos List.mem_cons_self, List.append_nil, List.filter_eq_self.mpr]
        simp
      · simp [same, Ne.symm same, List.filter_map, Function.comp_def]

theorem filter_fieldVisits (groups : Groups α) {present : List String} {field : String}
    (nodup : present.Nodup) (member : field ∈ present) :
    (groups.fieldVisits present).filter (·.1 = field) =
      (groups.covering field).map fun entry => (field, entry) := by
  rw [fieldVisits, covering, List.filter_flatMap, List.map_flatMap]
  congr 1
  funext ⟨target, entries⟩
  cases target with
  | every =>
      exact (filter_flatMap_fields field entries nodup).trans (if_pos member)
  | field name =>
      have alone : [name].Nodup := by simp
      refine (filter_flatMap_fields field entries alone).trans ?_
      by_cases same : name = field
      · simp [Target.covers, same]
      · simp [Target.covers, same, Ne.symm same]

theorem filter_map_fields {present : List String} (field : String) (entry : α)
    (nodup : present.Nodup) :
    (present.map fun other => (other, entry)).filter (·.1 = field) =
      if field ∈ present then [(field, entry)] else [] := by
  rw [List.map_eq_flatMap]
  exact filter_flatMap_fields field [entry] nodup

/-- The entries that visit a field in a stage that goes entry by entry. A field that the
record does not hold is not visited. -/
def visitors (groups : Groups α) (present : List String) (field : String) : List α :=
  if field ∈ present then groups.covering field else []

/-- Other fields are visited in between, but the visitors of a field keep their order. -/
theorem filter_entryVisits {groups : Groups α} {present : List String} (nodup : present.Nodup)
    (named : ∀ field ∈ groups.fieldNames, field ∈ present) (field : String) :
    (groups.entryVisits present).filter (·.1 = field) =
      (groups.visitors present field).map fun entry => (field, entry) := by
  by_cases member : field ∈ present
  · rw [visitors, if_pos member, entryVisits, covering, List.filter_flatMap, List.map_flatMap]
    congr 1
    funext ⟨target, entries⟩
    rw [List.filter_flatMap]
    cases target with
    | every =>
        simp only [Target.fields, filter_map_fields field _ nodup, if_pos member]
        exact List.map_eq_flatMap.symm
    | field name =>
        have alone : [name].Nodup := by simp
        simp only [Target.fields, filter_map_fields field _ alone, List.mem_singleton]
        by_cases same : name = field
        · simp only [Target.covers, same, beq_self_eq_true, if_true]
          exact List.map_eq_flatMap.symm
        · simp [Target.covers, same, Ne.symm same]
  · rw [visitors, if_neg member, List.map_nil, List.filter_eq_nil_iff]
    intro visit visited same
    rcases mem_of_mem_entryVisits visited with present | target
    · exact member (of_decide_eq_true same ▸ present)
    · exact member (of_decide_eq_true same ▸ named _ target)

def members (groups : Groups α) : List α :=
  groups.entries.flatMap Prod.snd

theorem mem_members_of_mem_covering {groups : Groups α} {field : String} {entry : α}
    (covering : entry ∈ groups.covering field) : entry ∈ groups.members := by
  obtain ⟨⟨target, entries⟩, group, member⟩ := List.mem_flatMap.mp covering
  have among : entry ∈ entries := by
    by_cases covers : target.covers field = true
    · simpa [covers] using member
    · simp [covers] at member
  exact List.mem_flatMap.mpr ⟨_, group, among⟩

theorem mem_members_of_mem_visitors {groups : Groups α} {present : List String}
    {field : String} {entry : α} (visitor : entry ∈ groups.visitors present field) :
    entry ∈ groups.members := by
  by_cases member : field ∈ present
  · rw [visitors, if_pos member] at visitor
    exact mem_members_of_mem_covering visitor
  · rw [visitors, if_neg member] at visitor
    cases visitor

theorem mem_members_of_mem_entryVisits {groups : Groups α} {present : List String}
    {visit : String × α} (visited : visit ∈ groups.entryVisits present) :
    visit.2 ∈ groups.members := by
  obtain ⟨⟨target, entries⟩, group, visited⟩ := List.mem_flatMap.mp visited
  obtain ⟨entry, member, visited⟩ := List.mem_flatMap.mp visited
  obtain ⟨field, _, rfl⟩ := List.mem_map.mp visited
  exact List.mem_flatMap.mpr ⟨_, group, member⟩

theorem covering_eq_nil {groups : Groups α} (empty : groups.members = []) (field : String) :
    groups.covering field = [] := by
  refine List.eq_nil_iff_forall_not_mem.mpr fun entry covering => ?_
  have member := mem_members_of_mem_covering covering
  rw [empty] at member
  cases member

end FieldCheck.Groups
