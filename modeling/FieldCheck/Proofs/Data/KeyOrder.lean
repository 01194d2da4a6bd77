import FieldCheck.Pipeline.Basic
import Mathlib.Data.List.Forall2

namespace FieldCheck

section Distinct

variable {α : Type u} [DecidableEq α] {item : α} {items left right : List α}

@[simp]
theorem mem_distinct : item ∈ distinct items ↔ item ∈ items := by
  induction items with
  | nil => simp [distinct]
  | cons head rest restIH =>
      by_cases same : item = head <;> simp [distinct, same, restIH]

theorem nodup_distinct (items : List α) : (distinct items).Nodup := by
  induction items with
  | nil => exact .nil
  | cons head rest restIH =>
      exact List.nodup_cons.mpr ⟨by simp, restIH.filter _⟩

theorem distinct_of_nodup (nodup : items.Nodup) : distinct items = items := by
  induction items with
  | nil => rfl
  | cons head rest restIH =>
      obtain ⟨fresh, restNodup⟩ := List.nodup_cons.mp nodup
      rw [distinct, restIH restNodup, List.filter_eq_self.mpr]
      intro item member
      simpa using ne_of_mem_of_not_mem member fresh

/-- Adds an item at the end, unless it is there already. -/
def addNew (seen : List α) (item : α) : List α :=
  if item ∈ seen then seen else seen ++ [item]

theorem foldl_addNew (seen items : List α) :
    items.foldl addNew seen = seen ++ (distinct items).filter (· ∉ seen) := by
  induction items generalizing seen with
  | nil => simp [distinct]
  | cons head rest restIH =>
      rw [List.foldl_cons, restIH, distinct, List.filter_cons, List.filter_filter]
      by_cases known : head ∈ seen
      · rw [addNew, if_pos known, if_neg (by simpa using known)]
        congr 1
        apply List.filter_congr
        intro item _
        by_cases same : item = head <;> simp [same, known]
      · rw [addNew, if_neg known, if_pos (by simpa using known), List.append_assoc,
          List.singleton_append]
        congr 2
        apply List.filter_congr
        intro item _
        simp

theorem foldl_addNew_nil (items : List α) : items.foldl addNew [] = distinct items := by
  rw [foldl_addNew, List.nil_append, List.filter_eq_self.mpr (by simp)]

theorem distinct_append (left right : List α) :
    distinct (left ++ right) = distinct left ++ (distinct right).filter (· ∉ left) := by
  rw [← foldl_addNew_nil, List.foldl_append, foldl_addNew_nil, foldl_addNew]
  simp only [mem_distinct]

@[simp]
theorem distinct_distinct (items : List α) : distinct (distinct items) = distinct items :=
  distinct_of_nodup (nodup_distinct items)

theorem distinct_append_congr {left left' right right' : List α}
    (leftEq : distinct left = distinct left') (rightEq : distinct right = distinct right') :
    distinct (left ++ right) = distinct (left' ++ right') := by
  have sameMembers : ∀ item : α, item ∈ left ↔ item ∈ left' := by
    intro item
    rw [← mem_distinct, leftEq, mem_distinct]
  rw [distinct_append, distinct_append, leftEq, rightEq]
  simp only [sameMembers]

theorem filter_distinct (keep : α → Bool) (items : List α) :
    (distinct items).filter keep = distinct (items.filter keep) := by
  induction items with
  | nil => rfl
  | cons head rest restIH =>
      by_cases kept : keep head = true
      · rw [distinct, List.filter_cons_of_pos kept, List.filter_cons_of_pos kept, distinct,
          ← restIH, List.filter_filter, List.filter_filter]
        simp only [Bool.and_comm]
      · rw [distinct, List.filter_cons_of_neg kept, List.filter_cons_of_neg kept, ← restIH,
          List.filter_filter]
        apply List.filter_congr
        intro item _
        by_cases same : item = head <;> simp [same, kept]

theorem distinct_filterMap_distinct {β : Type v} [DecidableEq β] (f : α → Option β)
    (items : List α) : distinct ((distinct items).filterMap f) = distinct (items.filterMap f) := by
  induction items with
  | nil => rfl
  | cons head rest restIH =>
      rw [distinct]
      cases image : f head with
      | none =>
          rw [List.filterMap_cons_none image, List.filterMap_cons_none image, ← restIH,
            List.filterMap_filter]
          congr 2
          funext item
          by_cases same : item = head <;> simp [same, image]
      | some value =>
          -- Items equal to the head give its value again, which `distinct` drops as well.
          have others : (((distinct rest).filter (· ≠ head)).filterMap f).filter (· ≠ value) =
              ((distinct rest).filterMap f).filter (· ≠ value) := by
            rw [List.filterMap_filter, List.filter_filterMap, List.filter_filterMap]
            congr 1
            funext item
            by_cases same : item = head <;> simp [same, image, Option.filter]
          rw [List.filterMap_cons_some image, List.filterMap_cons_some image, distinct, distinct,
            filter_distinct, others, ← filter_distinct, restIH]

end Distinct

namespace Assoc

variable {κ : Type u} {α : Type v} [DecidableEq κ]

theorem insert_of_not_mem {key : κ} {entries : List (κ × α)} (value : α)
    (missing : key ∉ keys entries) : insert key value entries = entries ++ [(key, value)] := by
  induction entries with
  | nil => rfl
  | cons entry rest restIH =>
      have differs : entry.1 ≠ key := fun same => missing (by simp [keys, same])
      have restMissing : key ∉ keys rest := fun member => missing (List.mem_cons_of_mem _ member)
      simp [insert, differs, restIH restMissing]

theorem entries_eq_map_keys (fallback : α) {entries : List (κ × α)}
    (distinct : (keys entries).Nodup) :
    entries = (keys entries).map fun key => (key, (get? key entries).getD fallback) := by
  induction entries with
  | nil => rfl
  | cons entry rest restIH =>
      obtain ⟨fresh, restDistinct⟩ := List.nodup_cons.mp distinct
      have skipsHead : ∀ key ∈ keys rest, get? key (entry :: rest) = get? key rest := by
        intro key member
        have differs : entry.1 ≠ key := (ne_of_mem_of_not_mem member fresh).symm
        simp [get?, differs]
      have restEq : (keys rest).map (fun key => (key, (get? key (entry :: rest)).getD fallback)) =
          rest := by
        rw [List.map_congr_left fun key member => by rw [skipsHead key member]]
        exact (restIH restDistinct).symm
      change entry :: rest = (entry.1, (get? entry.1 (entry :: rest)).getD fallback) ::
        (keys rest).map fun key => (key, (get? key (entry :: rest)).getD fallback)
      rw [restEq]
      simp [get?]

/-- The last of the entries for a key gives it this value. -/
def Last (entries : List (κ × α)) (key : κ) (value : α) : Prop :=
  ∃ earlier later, entries = earlier ++ (key, value) :: later ∧ key ∉ keys later

omit [DecidableEq κ] in
theorem last_cons {entry : κ × α} {rest : List (κ × α)} {key : κ} {value : α} :
    Last (entry :: rest) key value ↔
      Last rest key value ∨ (entry = (key, value) ∧ key ∉ keys rest) := by
  constructor
  · rintro ⟨earlier, later, whole, fresh⟩
    cases earlier with
    | nil =>
        obtain ⟨rfl, rfl⟩ := List.cons.inj whole
        exact .inr ⟨rfl, fresh⟩
    | cons first others =>
        obtain ⟨rfl, rfl⟩ := List.cons.inj whole
        exact .inl ⟨others, later, rfl, fresh⟩
  · rintro (⟨earlier, later, rfl, fresh⟩ | ⟨rfl, fresh⟩)
    · exact ⟨entry :: earlier, later, rfl, fresh⟩
    · exact ⟨[], rest, rfl, fresh⟩

/-- The same keys in the same order, with related values. -/
def Matches {β : Type w} (R : α → β → Prop) : List (κ × α) → List (κ × β) → Prop :=
  List.Forall₂ fun left right => left.1 = right.1 ∧ R left.2 right.2

theorem Matches.insert {β : Type w} {R : α → β → Prop} {left : List (κ × α)}
    {right : List (κ × β)} (matched : Matches R left right) (key : κ) {value : α} {other : β}
    (related : R value other) :
    Matches R (Assoc.insert key value left) (Assoc.insert key other right) := by
  induction matched with
  | nil => exact .cons ⟨rfl, related⟩ .nil
  | @cons first second lefts rights entry rest restIH =>
      rw [Assoc.insert, Assoc.insert, entry.1]
      split
      · exact .cons ⟨rfl, related⟩ rest
      · exact .cons ⟨rfl, entry.2⟩ restIH

end Assoc

namespace OrderedMap

variable {κ : Type u} {α : Type v} [DecidableEq κ]

theorem get?_eq_none_iff_not_mem {map : OrderedMap κ α} {key : κ} :
    map.get? key = none ↔ key ∉ map.keys :=
  Assoc.get?_eq_none_iff

theorem isSome_get?_iff {map : OrderedMap κ α} {key : κ} :
    (map.get? key).isSome = true ↔ key ∈ map.keys :=
  contains_iff

theorem keys_insert_eq_addNew (map : OrderedMap κ α) (key : κ) (value : α) :
    (map.insert key value).keys = addNew map.keys key :=
  map.keys_insert key value

theorem keys_insert_of_mem {map : OrderedMap κ α} {key : κ} (value : α)
    (present : key ∈ map.keys) : (map.insert key value).keys = map.keys := by
  rw [keys_insert, if_pos present]

theorem entries_insert_of_not_mem {map : OrderedMap κ α} {key : κ} (value : α)
    (missing : key ∉ map.keys) :
    (map.insert key value).entries = map.entries ++ [(key, value)] :=
  Assoc.insert_of_not_mem value missing

theorem entries_eq_map_keys (fallback : α) (map : OrderedMap κ α) :
    map.entries = map.keys.map fun key => (key, (map.get? key).getD fallback) :=
  Assoc.entries_eq_map_keys fallback map.distinct

theorem get?_of_mem_entries {map : OrderedMap κ α} {entry : κ × α}
    (member : entry ∈ map.entries) : map.get? entry.1 = some entry.2 := by
  rw [entries_eq_map_keys entry.2 map] at member
  obtain ⟨key, present, same⟩ := List.mem_map.mp member
  obtain ⟨value, given⟩ := Option.isSome_iff_exists.mp (isSome_get?_iff.mpr present)
  rw [given, Option.getD_some] at same
  rw [← same, given]

theorem mem_entries_of_get? {map : OrderedMap κ α} {key : κ} {value : α}
    (given : map.get? key = some value) : (key, value) ∈ map.entries := by
  have present : key ∈ map.keys := isSome_get?_iff.mp (Option.isSome_of_eq_some given)
  rw [entries_eq_map_keys value map]
  exact List.mem_map.mpr ⟨key, present, by rw [given]; rfl⟩

theorem ext_get? {left right : OrderedMap κ α} (sameKeys : left.keys = right.keys)
    (sameLookups : ∀ key, left.get? key = right.get? key) : left = right := by
  apply OrderedMap.ext
  cases first : left.entries with
  | nil =>
      have none : right.keys = [] := by rw [← sameKeys, keys, first]; rfl
      exact (List.map_eq_nil_iff.mp none).symm
  | cons entry rest =>
      rw [← first, entries_eq_map_keys entry.2 left, entries_eq_map_keys entry.2 right, sameKeys]
      simp only [sameLookups]

theorem eq_of_keys_prefix {small large : OrderedMap κ α} (grown : small.keys <+: large.keys)
    (sameLookups : ∀ key, large.get? key = small.get? key) : large = small := by
  refine ext_get? ?_ sameLookups
  obtain ⟨added, keysEq⟩ := grown
  cases added with
  | nil => rw [← keysEq, List.append_nil]
  | cons key others =>
      -- The key added first is looked up with success in one of the maps alone.
      have present : key ∈ large.keys := by simp [← keysEq]
      have fresh : key ∉ small.keys := by
        have nodup := large.nodup_keys
        rw [← keysEq, List.nodup_append] at nodup
        exact fun member => nodup.2.2 key member key List.mem_cons_self rfl
      rw [← isSome_get?_iff, sameLookups, isSome_get?_iff] at present
      exact absurd present fresh

omit [DecidableEq κ] in
theorem isEmpty_iff_keys {map : OrderedMap κ α} : map.isEmpty = true ↔ map.keys = [] := by
  rw [isEmpty, List.isEmpty_iff, keys, Assoc.keys, List.map_eq_nil_iff]

/-- Equality as mappings: the order of the keys does not count. -/
def SameMapping (left right : OrderedMap κ α) : Prop :=
  ∀ key, left.get? key = right.get? key

theorem SameMapping.isEmpty_eq {left right : OrderedMap κ α} (same : left.SameMapping right) :
    left.isEmpty = right.isEmpty := by
  have noKeys (map : OrderedMap κ α) : map.isEmpty = true ↔ ∀ key, map.get? key = none := by
    rw [isEmpty_iff_keys, List.eq_nil_iff_forall_not_mem]
    simp only [get?_eq_none_iff_not_mem]
  rw [Bool.eq_iff_iff, noKeys, noKeys]
  simp only [same _]

@[simp]
theorem insertAll_nil (map : OrderedMap κ α) : map.insertAll [] = map := rfl

@[simp]
theorem insertAll_cons (map : OrderedMap κ α) (entry : κ × α) (rest : List (κ × α)) :
    map.insertAll (entry :: rest) = (map.insert entry.1 entry.2).insertAll rest := rfl

theorem insertAll_append (map : OrderedMap κ α) (left right : List (κ × α)) :
    map.insertAll (left ++ right) = (map.insertAll left).insertAll right :=
  List.foldl_append

theorem keys_insertAll_eq_foldl (map : OrderedMap κ α) (entries : List (κ × α)) :
    (map.insertAll entries).keys = (entries.map Prod.fst).foldl addNew map.keys := by
  induction entries generalizing map with
  | nil => rfl
  | cons entry rest restIH =>
      rw [insertAll_cons, restIH, keys_insert_eq_addNew, List.map_cons, List.foldl_cons]

theorem keys_insertAll (map : OrderedMap κ α) (entries : List (κ × α)) :
    (map.insertAll entries).keys =
      map.keys ++ (FieldCheck.distinct (entries.map Prod.fst)).filter (· ∉ map.keys) := by
  rw [keys_insertAll_eq_foldl, foldl_addNew]

theorem keys_ofList (entries : List (κ × α)) :
    (ofList entries).keys = FieldCheck.distinct (entries.map Prod.fst) := by
  rw [ofList, keys_insertAll_eq_foldl, keys_empty, foldl_addNew_nil]

theorem keys_prefix_insertAll (map : OrderedMap κ α) (entries : List (κ × α)) :
    map.keys <+: (map.insertAll entries).keys := by
  rw [keys_insertAll]
  exact List.prefix_append _ _

theorem mem_keys_insertAll {map : OrderedMap κ α} {entries : List (κ × α)} {key : κ} :
    key ∈ (map.insertAll entries).keys ↔ key ∈ map.keys ∨ key ∈ entries.map Prod.fst := by
  rw [keys_insertAll, List.mem_append, List.mem_filter, mem_distinct, decide_eq_true_eq]
  by_cases present : key ∈ map.keys <;> simp [present]

theorem entries_insertAll_of_fresh {map : OrderedMap κ α} {entries : List (κ × α)}
    (nodup : (map.keys ++ Assoc.keys entries).Nodup) :
    (map.insertAll entries).entries = map.entries ++ entries := by
  induction entries generalizing map with
  | nil => exact (List.append_nil _).symm
  | cons entry rest restIH =>
      have fresh : entry.1 ∉ map.keys := fun member =>
        (List.nodup_append.mp nodup).2.2 entry.1 member entry.1 List.mem_cons_self rfl
      have inserted := entries_insert_of_not_mem entry.2 fresh
      have restNodup : ((map.insert entry.1 entry.2).keys ++ Assoc.keys rest).Nodup := by
        rw [keys, inserted, Assoc.keys, List.map_append, List.append_assoc]
        exact nodup
      rw [insertAll_cons, restIH restNodup, inserted, List.append_assoc, List.singleton_append]

theorem entries_ofList_of_nodup {entries : List (κ × α)} (nodup : (Assoc.keys entries).Nodup) :
    (ofList entries).entries = entries := by
  rw [ofList, entries_insertAll_of_fresh]
  · rfl
  · exact nodup

theorem ofList_entries (map : OrderedMap κ α) : ofList map.entries = map :=
  OrderedMap.ext (entries_ofList_of_nodup map.distinct)

theorem matches_insertAll {β : Type w} {R : α → β → Prop} {left : OrderedMap κ α}
    {right : OrderedMap κ β} (matched : Assoc.Matches R left.entries right.entries)
    {lefts : List (κ × α)} {rights : List (κ × β)} (further : Assoc.Matches R lefts rights) :
    Assoc.Matches R (left.insertAll lefts).entries (right.insertAll rights).entries := by
  induction further generalizing left right with
  | nil => exact matched
  | @cons first second _ _ entry _ restIH =>
      rw [insertAll_cons, insertAll_cons, ← entry.1]
      exact restIH (matched.insert first.1 entry.2)

theorem matches_ofList {β : Type w} {R : α → β → Prop} {lefts : List (κ × α)}
    {rights : List (κ × β)} (matched : Assoc.Matches R lefts rights) :
    Assoc.Matches R (ofList lefts).entries (ofList rights).entries :=
  matches_insertAll (show Assoc.Matches R empty.entries empty.entries from .nil) matched

/-- The last of the entries for a key counts. -/
theorem get?_insertAll (map : OrderedMap κ α) (entries : List (κ × α)) (key : κ) :
    (map.insertAll entries).get? key =
      ((entries.filter (·.1 = key)).getLast?.map Prod.snd).or (map.get? key) := by
  induction entries generalizing map with
  | nil => simp
  | cons entry rest restIH =>
      rw [insertAll_cons, restIH, get?_insert]
      by_cases same : entry.1 = key
      · cases laterEntries : rest.filter (·.1 = key) with
        | nil => simp [same, laterEntries]
        | cons next later =>
            simp only [List.filter_cons, same, decide_true, if_true, laterEntries,
              List.getLast?_cons_cons]
            simp [List.getLast?_cons]
      · simp [same, Ne.symm same]

theorem get?_insertAll_eq_some_iff {map : OrderedMap κ α} {entries : List (κ × α)} {key : κ}
    {value : α} : (map.insertAll entries).get? key = some value ↔
      Assoc.Last entries key value ∨ (key ∉ Assoc.keys entries ∧ map.get? key = some value) := by
  induction entries generalizing map with
  | nil => simp [Assoc.Last, Assoc.keys]
  | cons entry rest restIH =>
      obtain ⟨other, given⟩ := entry
      rw [insertAll_cons, restIH, get?_insert, Assoc.last_cons, or_assoc]
      by_cases same : key = other
      · simp [Assoc.keys, same, and_comm]
      · simp [Assoc.keys, same, Ne.symm same]

theorem get?_ofList_eq_some_iff {entries : List (κ × α)} {key : κ} {value : α} :
    (ofList entries).get? key = some value ↔ Assoc.Last entries key value := by
  simp [ofList, get?_insertAll_eq_some_iff]

theorem last_unique {entries : List (κ × α)} {key : κ} {value other : α}
    (last : Assoc.Last entries key value) (otherLast : Assoc.Last entries key other) :
    value = other := by
  have found := get?_ofList_eq_some_iff.mpr last
  rw [get?_ofList_eq_some_iff.mpr otherLast] at found
  exact (Option.some.inj found).symm

theorem get?_ofList_eq_none_iff {entries : List (κ × α)} {key : κ} :
    (ofList entries).get? key = none ↔ key ∉ Assoc.keys entries := by
  rw [get?_eq_none_iff_not_mem, keys_ofList, mem_distinct]
  rfl

theorem mem_of_get?_ofList {entries : List (κ × α)} {key : κ} {value : α}
    (given : (ofList entries).get? key = some value) : (key, value) ∈ entries := by
  rw [ofList, get?_insertAll, get?_empty, Option.or_none] at given
  obtain ⟨entry, last, rfl⟩ := Option.map_eq_some_iff.mp given
  obtain ⟨member, same⟩ := List.mem_filter.mp (List.mem_of_getLast? last)
  rw [← of_decide_eq_true same]
  exact member

/-- Values that go by the key are found at every key, however often it is given. -/
theorem entries_ofList_map (items : List κ) (f : κ → α) :
    (ofList (items.map fun key => (key, f key))).entries =
      (FieldCheck.distinct items).map fun key => (key, f key) := by
  have named : (items.map fun key => (key, f key)).map Prod.fst = items := by
    rw [List.map_map]
    exact List.map_id items
  have found : ∀ entry ∈ (ofList (items.map fun key => (key, f key))).entries,
      entry = (entry.1, f entry.1) := by
    intro entry member
    obtain ⟨key, _, same⟩ := List.mem_map.mp (mem_of_get?_ofList (get?_of_mem_entries member))
    have whole : (key, f key) = entry := same
    rw [← whole]
  calc (ofList (items.map fun key => (key, f key))).entries
      = (ofList (items.map fun key => (key, f key))).keys.map fun key => (key, f key) := by
        rw [keys, Assoc.keys, List.map_map]
        exact (List.map_id _).symm.trans (List.map_congr_left found)
    _ = (FieldCheck.distinct items).map fun key => (key, f key) := by rw [keys_ofList, named]

theorem get?_insertAll_of_not_mem {map : OrderedMap κ α} {entries : List (κ × α)} {key : κ}
    (absent : key ∉ entries.map Prod.fst) : (map.insertAll entries).get? key = map.get? key := by
  have none : entries.filter (·.1 = key) = [] := by
    rw [List.filter_eq_nil_iff]
    intro entry member same
    exact absent (List.mem_map.mpr ⟨entry, member, of_decide_eq_true same⟩)
  rw [get?_insertAll, none]
  rfl

theorem get?_insertAll_of_own {map : OrderedMap κ α} {entries : List (κ × α)} {key : κ}
    (own : ∀ entry ∈ entries, entry.1 = key) (wanted : κ) :
    (map.insertAll entries).get? wanted =
      if wanted = key then (entries.getLast?.map Prod.snd).or (map.get? key)
      else map.get? wanted := by
  by_cases same : wanted = key
  · subst same
    have all : entries.filter (·.1 = wanted) = entries :=
      List.filter_eq_self.mpr fun entry member => decide_eq_true (own entry member)
    rw [if_pos rfl, get?_insertAll, all]
  · have absent : wanted ∉ entries.map Prod.fst := by
      intro member
      obtain ⟨entry, among, rfl⟩ := List.mem_map.mp member
      exact same (own entry among)
    rw [if_neg same, get?_insertAll_of_not_mem absent]

end OrderedMap

end FieldCheck
