import Mathlib.Data.List.Forall2

namespace FieldCheck.Collect

variable {α β : Type} {read : α → Option β} {items : List α} {results : List β}

theorem exists_of_mem {R : α → β → Prop} (each : List.Forall₂ R items results) {item : α}
    (member : item ∈ items) : ∃ result ∈ results, R item result := by
  induction each with
  | nil => cases member
  | cons related _ restIH =>
      rcases List.mem_cons.mp member with rfl | member
      · exact ⟨_, List.mem_cons_self, related⟩
      · obtain ⟨result, among, related⟩ := restIH member
        exact ⟨result, List.mem_cons_of_mem _ among, related⟩

theorem mapM_eq_some_iff :
    items.mapM read = some results ↔
      List.Forall₂ (fun item result => read item = some result) items results := by
  induction items generalizing results with
  | nil => simp [eq_comm]
  | cons item rest restIH =>
      rw [List.mapM_cons, List.forall₂_cons_left_iff]
      simp only [Option.bind_eq_bind, Option.bind_eq_some_iff, Option.pure_def, Option.some.injEq,
        restIH]
      grind

theorem exists_mapM_iff :
    (∃ results, items.mapM read = some results) ↔
      ∀ item ∈ items, ∃ result, read item = some result := by
  induction items with
  | nil => simp
  | cons item rest restIH =>
      rw [List.forall_mem_cons, ← restIH, List.mapM_cons]
      simp only [Option.bind_eq_bind, Option.bind_eq_some_iff, Option.pure_def, Option.some.injEq]
      grind

theorem mapM_map_of_each {write : β → α} {items : List β}
    (each : ∀ item ∈ items, read (write item) = some item) :
    (items.map write).mapM read = some items :=
  mapM_eq_some_iff.mpr (List.forall₂_map_left_iff.mpr (List.forall₂_same.mpr each))

theorem exists_of_mem_mapM (collected : items.mapM read = some results) {result : β}
    (member : result ∈ results) : ∃ item ∈ items, read item = some result :=
  exists_of_mem (mapM_eq_some_iff.mp collected).flip member

end FieldCheck.Collect
