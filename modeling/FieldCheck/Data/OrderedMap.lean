namespace FieldCheck

/-! Finite maps that remember the order in which keys first arrived.

The entry list is the semantic model. Writing to a key that is present keeps its
position, a new key goes to the end, and erasing closes the gap, so `keys` changes
only as `keys_insert` and `keys_erase` say.
-/

namespace Assoc

variable {κ : Type u} {α : Type v}

def keys (entries : List (κ × α)) : List κ :=
  entries.map Prod.fst

variable [DecidableEq κ]

def get? (key : κ) : List (κ × α) → Option α
  | [] => none
  | (other, value) :: rest => if other = key then some value else get? key rest

/-- Overwrites in place, or appends an entry for a new key. -/
def insert (key : κ) (value : α) : List (κ × α) → List (κ × α)
  | [] => [(key, value)]
  | (other, old) :: rest =>
      if other = key then (key, value) :: rest
      else (other, old) :: insert key value rest

def erase (key : κ) : List (κ × α) → List (κ × α)
  | [] => []
  | (other, value) :: rest =>
      if other = key then rest else (other, value) :: erase key rest

theorem get?_eq_none_iff {key : κ} {entries : List (κ × α)} :
    get? key entries = none ↔ key ∉ keys entries := by
  induction entries with
  | nil => simp [get?, keys]
  | cons entry rest restIH =>
      by_cases same : entry.1 = key
      · simp [get?, keys, same]
      · have differs : key ≠ entry.1 := fun equal => same equal.symm
        simpa [get?, keys, same, differs] using restIH

theorem keys_insert (key : κ) (value : α) (entries : List (κ × α)) :
    keys (insert key value entries) =
      if key ∈ keys entries then keys entries else keys entries ++ [key] := by
  induction entries with
  | nil => simp [insert, keys]
  | cons entry rest restIH =>
      by_cases same : entry.1 = key
      · simp [insert, keys, same]
      · have differs : key ≠ entry.1 := fun equal => same equal.symm
        simp only [keys] at restIH
        by_cases present : key ∈ rest.map Prod.fst <;>
          simp_all [insert, keys]

theorem keys_erase (key : κ) (entries : List (κ × α)) :
    keys (erase key entries) = (keys entries).erase key := by
  induction entries with
  | nil => simp [erase, keys]
  | cons entry rest restIH =>
      by_cases same : entry.1 = key
      · simp [erase, keys, same]
      · simpa [erase, keys, same, List.erase_cons] using restIH

theorem get?_insert (key wanted : κ) (value : α) (entries : List (κ × α)) :
    get? wanted (insert key value entries) =
      if wanted = key then some value else get? wanted entries := by
  induction entries with
  | nil => by_cases same : wanted = key <;> simp_all [insert, get?, eq_comm]
  | cons entry rest restIH =>
      by_cases atHead : entry.1 = key
      · by_cases same : wanted = key <;> simp_all [insert, get?, eq_comm]
      · by_cases same : wanted = key <;> by_cases here : entry.1 = wanted <;>
          simp_all [insert, get?]

theorem nodup_keys_insert {entries : List (κ × α)} (key : κ) (value : α)
    (distinct : (keys entries).Nodup) : (keys (insert key value entries)).Nodup := by
  rw [keys_insert]
  split
  · exact distinct
  · rename_i missing
    refine List.nodup_append.mpr ⟨distinct, by simp, ?_⟩
    intro present member fresh memberFresh
    rw [List.mem_singleton.mp memberFresh]
    exact fun equal => missing (equal ▸ member)

theorem nodup_keys_erase {entries : List (κ × α)} (key : κ)
    (distinct : (keys entries).Nodup) : (keys (erase key entries)).Nodup := by
  rw [keys_erase]
  exact distinct.erase key

end Assoc

/-- A map with distinct keys, in order of first arrival. -/
@[ext]
structure OrderedMap (κ : Type u) (α : Type v) where
  entries : List (κ × α)
  distinct : (Assoc.keys entries).Nodup

namespace OrderedMap

variable {κ : Type u} {α : Type v}

def empty : OrderedMap κ α := ⟨[], by simp [Assoc.keys]⟩

instance : Inhabited (OrderedMap κ α) := ⟨empty⟩

def keys (map : OrderedMap κ α) : List κ :=
  Assoc.keys map.entries

def values (map : OrderedMap κ α) : List α :=
  map.entries.map Prod.snd

def size (map : OrderedMap κ α) : Nat :=
  map.entries.length

def isEmpty (map : OrderedMap κ α) : Bool :=
  map.entries.isEmpty

@[simp]
theorem keys_empty : (empty : OrderedMap κ α).keys = [] := rfl

theorem nodup_keys (map : OrderedMap κ α) : map.keys.Nodup := map.distinct

variable [DecidableEq κ]

def get? (map : OrderedMap κ α) (key : κ) : Option α :=
  Assoc.get? key map.entries

def contains (map : OrderedMap κ α) (key : κ) : Bool :=
  (map.get? key).isSome

/-- Keeps the position of a key that is present. -/
def insert (map : OrderedMap κ α) (key : κ) (value : α) : OrderedMap κ α :=
  ⟨Assoc.insert key value map.entries, Assoc.nodup_keys_insert key value map.distinct⟩

def insertAll (map : OrderedMap κ α) (entries : List (κ × α)) : OrderedMap κ α :=
  entries.foldl (fun built entry => built.insert entry.1 entry.2) map

/-- A repeated key keeps its first position and takes its last value. -/
def ofList (entries : List (κ × α)) : OrderedMap κ α :=
  empty.insertAll entries

def erase (map : OrderedMap κ α) (key : κ) : OrderedMap κ α :=
  ⟨Assoc.erase key map.entries, Assoc.nodup_keys_erase key map.distinct⟩

/-- Equality of the mappings alone: the order of the keys does not count. -/
def sameBy (same : α → α → Bool) (left right : OrderedMap κ α) : Bool :=
  left.size == right.size &&
    left.entries.all fun entry =>
      match right.get? entry.1 with
      | some value => same entry.2 value
      | none => false

@[simp]
theorem get?_empty (key : κ) : (empty : OrderedMap κ α).get? key = none := rfl

theorem get?_insert (map : OrderedMap κ α) (key wanted : κ) (value : α) :
    (map.insert key value).get? wanted =
      if wanted = key then some value else map.get? wanted :=
  Assoc.get?_insert key wanted value map.entries

@[simp]
theorem contains_iff {map : OrderedMap κ α} {key : κ} :
    map.contains key = true ↔ key ∈ map.keys := by
  rw [contains, Option.isSome_iff_ne_none, ne_eq, get?, Assoc.get?_eq_none_iff,
    Decidable.not_not]
  rfl

theorem keys_insert (map : OrderedMap κ α) (key : κ) (value : α) :
    (map.insert key value).keys =
      if key ∈ map.keys then map.keys else map.keys ++ [key] :=
  Assoc.keys_insert key value map.entries

theorem keys_erase (map : OrderedMap κ α) (key : κ) :
    (map.erase key).keys = map.keys.erase key :=
  Assoc.keys_erase key map.entries

end OrderedMap

end FieldCheck
