import FieldCheck.Messages
import FieldCheck.Proofs.Data.Collect
import FieldCheck.Proofs.Data.KeyOrder

namespace FieldCheck.ErrorMap

open Assoc (Last)

variable {table : MessageTable} {entries messages : List (String × String)}
  {missing : MissingMessage}

theorem forall₂_of_renderEntries (rendered : renderEntries table entries = .ok messages) :
    List.Forall₂ (fun entry message => message.1 = entry.1 ∧ table.get? entry = some message.2)
      entries messages := by
  fun_induction renderEntries table entries generalizing messages with
  | case1 =>
      cases rendered
      exact .nil
  | case2 => cases rendered
  | case3 field code rest message found others later restIH =>
      cases rendered
      exact .cons ⟨rfl, found⟩ (restIH later)
  | case4 => cases rendered

theorem map_fst_of_renderEntries (rendered : renderEntries table entries = .ok messages) :
    messages.map Prod.fst = entries.map Prod.fst := by
  have sameFields := (forall₂_of_renderEntries rendered).imp fun _ _ related => related.1.symm
  exact (List.forall₂_eq_eq_eq ▸
    List.forall₂_map_left_iff.mpr (List.forall₂_map_right_iff.mpr sameFields)).symm

theorem exists_gap_of_renderEntries (stopped : renderEntries table entries = .error missing) :
    ∃ earlier later, entries = earlier ++ (missing.field, missing.code) :: later ∧
      (∀ entry ∈ earlier, table.get? entry ≠ none) ∧
      table.get? (missing.field, missing.code) = none := by
  fun_induction renderEntries table entries with
  | case1 => cases stopped
  | case2 field code rest absent =>
      cases stopped
      exact ⟨[], rest, rfl, by simp, absent⟩
  | case3 => cases stopped
  | case4 field code rest message found other later restIH =>
      cases stopped
      obtain ⟨earlier, behind, rfl, present, absent⟩ := restIH later
      have foundHere : table.get? (field, code) ≠ none := by simp [found]
      exact ⟨(field, code) :: earlier, behind, rfl,
        List.forall_mem_cons.mpr ⟨foundHere, present⟩, absent⟩

theorem exists_renderEntries_iff :
    (∃ messages, renderEntries table entries = .ok messages) ↔
      ∀ entry ∈ entries, table.get? entry ≠ none := by
  constructor
  · rintro ⟨messages, rendered⟩ entry member
    obtain ⟨message, _, _, found⟩ :=
      Collect.exists_of_mem (forall₂_of_renderEntries rendered) member
    simp [found]
  · intro present
    cases outcome : renderEntries table entries with
    | ok messages => exact ⟨messages, rfl⟩
    | error missing =>
        obtain ⟨earlier, later, rfl, _, absent⟩ := exists_gap_of_renderEntries outcome
        exact absurd absent (present _ (by simp))

variable {recorded : List (String × String)} {inserted : List ((String × String) × String)}

theorem mem_entries_ofList_iff {field code : String} :
    (field, code) ∈ (OrderedMap.ofList recorded).entries ↔ Last recorded field code := by
  rw [← OrderedMap.get?_ofList_eq_some_iff]
  exact ⟨OrderedMap.get?_of_mem_entries, OrderedMap.mem_entries_of_get?⟩

theorem fields_ofList (recorded : List (String × String)) :
    (OrderedMap.ofList recorded).entries.map Prod.fst = distinct (recorded.map Prod.fst) :=
  OrderedMap.keys_ofList recorded

theorem get?_ne_none_iff {entry : String × String} :
    (OrderedMap.ofList inserted).get? entry ≠ none ↔ entry ∈ Assoc.keys inserted := by
  rw [ne_eq, OrderedMap.get?_ofList_eq_none_iff, Decidable.not_not]

/-- Rendering succeeds just when a message was inserted for the current code of every failed
field. It then gives the fields in the order in which they first failed, each with the last
message for its last code. Otherwise it names the first field in that order whose current code
has no message, and this code. -/
theorem render_joins_histories (recorded : List (String × String))
    (inserted : List ((String × String) × String)) :
    let errors : ErrorMap := .ofList recorded
    let table : MessageTable := .ofList inserted
    let fields := distinct (recorded.map Prod.fst)
    ((∃ messages, render errors table = .ok messages) ↔
      ∀ field code, Last recorded field code → (field, code) ∈ Assoc.keys inserted) ∧
    (∀ messages, render errors table = .ok messages →
      messages.map Prod.fst = fields ∧ ∀ field message, (field, message) ∈ messages →
        ∃ code, Last recorded field code ∧ Last inserted (field, code) message) ∧
    ∀ missing, render errors table = .error missing →
      ∃ earlier later, fields = earlier ++ missing.field :: later ∧
        (∀ field ∈ earlier, ∀ code, Last recorded field code →
          (field, code) ∈ Assoc.keys inserted) ∧
        Last recorded missing.field missing.code ∧
        (missing.field, missing.code) ∉ Assoc.keys inserted := by
  intro errors table fields
  refine ⟨?_, ?_, ?_⟩
  · rw [render, exists_renderEntries_iff, Prod.forall]
    simp only [errors, table, mem_entries_ofList_iff, get?_ne_none_iff]
  · intro messages rendered
    refine ⟨(map_fst_of_renderEntries rendered).trans (fields_ofList recorded), ?_⟩
    intro field message member
    obtain ⟨⟨failed, code⟩, among, same, found⟩ :=
      Collect.exists_of_mem (forall₂_of_renderEntries rendered).flip member
    obtain rfl : field = failed := same
    exact ⟨code, mem_entries_ofList_iff.mp among, OrderedMap.get?_ofList_eq_some_iff.mp found⟩
  · intro missing stopped
    obtain ⟨earlier, later, whole, present, absent⟩ := exists_gap_of_renderEntries stopped
    have among : ∀ entry ∈ earlier ++ (missing.field, missing.code) :: later,
        entry ∈ errors.entries := fun _ member => whole ▸ member
    refine ⟨earlier.map Prod.fst, later.map Prod.fst, ?_, ?_, ?_, ?_⟩
    · calc fields = errors.entries.map Prod.fst := (fields_ofList recorded).symm
        _ = earlier.map Prod.fst ++ missing.field :: later.map Prod.fst := by
          rw [whole, List.map_append, List.map_cons]
    · intro field early code current
      obtain ⟨⟨failed, other⟩, member, rfl⟩ := List.mem_map.mp early
      have recordedOther := mem_entries_ofList_iff.mp (among _ (List.mem_append_left _ member))
      obtain rfl : other = code := OrderedMap.last_unique recordedOther current
      exact get?_ne_none_iff.mp (present _ member)
    · exact mem_entries_ofList_iff.mp
        (among _ (List.mem_append_right earlier List.mem_cons_self))
    · exact fun given => get?_ne_none_iff.mpr given absent

end FieldCheck.ErrorMap
