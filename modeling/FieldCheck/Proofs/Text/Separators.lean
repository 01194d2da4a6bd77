import FieldCheck.Text.Split

namespace FieldCheck.Text

section Pieces

variable {α : Type u} {cut : α → Bool} {item : α} {items piece : List α}

theorem splitWhere_append_cons (found : cut item = true) (before after : List α) :
    splitWhere cut (before ++ item :: after) = splitWhere cut before ++ splitWhere cut after := by
  induction before with
  | nil =>
      obtain ⟨piece, pieces, afterEq, whole⟩ := splitWhere_cons cut item after
      rw [List.nil_append, whole, if_pos found, afterEq]
      rfl
  | cons head tail tailIH =>
      obtain ⟨piece, pieces, tailEq, headEq⟩ := splitWhere_cons cut head tail
      obtain ⟨first, others, wholeEq, whole⟩ := splitWhere_cons cut head (tail ++ item :: after)
      rw [tailIH, tailEq, List.cons_append] at wholeEq
      obtain ⟨rfl, rfl⟩ := List.cons.inj wholeEq
      rw [List.cons_append, whole, headEq]
      split <;> rfl

theorem splitWhere_of_uncut (uncut : ∀ item ∈ items, cut item = false) :
    splitWhere cut items = [items] := by
  induction items with
  | nil => rfl
  | cons head tail tailIH =>
      obtain ⟨headUncut, tailUncut⟩ := List.forall_mem_cons.mp uncut
      simp [splitWhere, tailIH tailUncut, headUncut]

theorem uncut_of_mem_splitWhere (member : piece ∈ splitWhere cut items) :
    ∀ item ∈ piece, cut item = false := by
  induction items generalizing piece with
  | nil =>
      cases List.mem_singleton.mp member
      simp
  | cons head tail tailIH =>
      obtain ⟨first, others, tailEq, whole⟩ := splitWhere_cons cut head tail
      have firstUncut := tailIH (tailEq ▸ List.mem_cons_self)
      have othersUncut : ∀ other ∈ others, ∀ item ∈ other, cut item = false :=
        fun other among => tailIH (tailEq ▸ List.mem_cons_of_mem _ among)
      rw [whole] at member
      by_cases found : cut head = true
      · rw [if_pos found] at member
        rcases List.mem_cons.mp member with rfl | inTail
        · simp
        · exact tailIH (tailEq ▸ inTail)
      · rw [if_neg found] at member
        rcases List.mem_cons.mp member with rfl | inOthers
        · exact List.forall_mem_cons.mpr ⟨Bool.eq_false_iff.mpr found, firstUncut⟩
        · exact othersUncut piece inOthers

theorem length_splitWhere (cut : α → Bool) (items : List α) :
    (splitWhere cut items).length = items.countP cut + 1 := by
  induction items with
  | nil => rfl
  | cons head tail tailIH =>
      obtain ⟨first, others, tailEq, whole⟩ := splitWhere_cons cut head tail
      rw [tailEq] at tailIH
      rw [whole]
      by_cases found : cut head = true
      · rw [if_pos found, List.countP_cons_of_pos found, List.length_cons, tailIH]
      · rw [if_neg found, List.countP_cons_of_neg found, ← tailIH]
        rfl

theorem flatten_splitWhere (cut : α → Bool) (items : List α) :
    (splitWhere cut items).flatten = items.filter fun item => !cut item := by
  induction items with
  | nil => rfl
  | cons head tail tailIH =>
      obtain ⟨first, others, tailEq, whole⟩ := splitWhere_cons cut head tail
      rw [tailEq] at tailIH
      rw [whole, List.filter_cons, ← tailIH]
      by_cases found : cut head = true
      · simp [found]
      · simp [found]

theorem joinWith_cons_cons (separator piece next : List α) (rest : List (List α)) :
    joinWith separator (piece :: next :: rest) =
      piece ++ (separator ++ joinWith separator (next :: rest)) := by
  simp [joinWith]

theorem mem_joinWith {separator : α} {pieces : List (List α)}
    (member : item ∈ joinWith [separator] pieces) :
    item = separator ∨ ∃ piece ∈ pieces, item ∈ piece := by
  induction pieces with
  | nil => cases member
  | cons piece rest restIH =>
      cases rest with
      | nil => exact .inr ⟨piece, List.mem_cons_self, by simpa [joinWith] using member⟩
      | cons next more =>
          rw [joinWith_cons_cons, List.singleton_append] at member
          rcases List.mem_append.mp member with inPiece | behind
          · exact .inr ⟨piece, List.mem_cons_self, inPiece⟩
          · rcases List.mem_cons.mp behind with same | inRest
            · exact .inl same
            · refine (restIH inRest).imp_right ?_
              rintro ⟨other, among, inOther⟩
              exact ⟨other, List.mem_cons_of_mem _ among, inOther⟩

theorem mem_joinWith_of_mem {pieces : List (List α)} (separator : List α) (among : piece ∈ pieces)
    (member : item ∈ piece) : item ∈ joinWith separator pieces := by
  induction pieces with
  | nil => cases among
  | cons first rest restIH =>
      cases rest with
      | nil =>
          cases List.mem_singleton.mp among
          simpa [joinWith] using member
      | cons next more =>
          rw [joinWith_cons_cons]
          rcases List.mem_cons.mp among with rfl | inRest
          · exact List.mem_append_left _ member
          · exact List.mem_append_right _ (List.mem_append_right _ (restIH inRest))

end Pieces

variable {α : Type u} [DecidableEq α] {separator : α} {text before after : List α}
  {pieces : List (List α)}

theorem splitOnce_eq_none_iff : splitOnce separator text = none ↔ separator ∉ text := by
  induction text with
  | nil => simp [splitOnce]
  | cons c rest restIH =>
      by_cases found : c = separator
      · simp [splitOnce, found]
      · simp [splitOnce, found, restIH, Ne.symm found]

theorem splitOnce_of_not_mem (fresh : separator ∉ before) (after : List α) :
    splitOnce separator (before ++ separator :: after) = some (before, after) := by
  induction before with
  | nil => simp [splitOnce]
  | cons c rest restIH =>
      obtain ⟨differs, restFresh⟩ := not_or.mp (mt List.mem_cons.mpr fresh)
      simp [splitOnce, Ne.symm differs, restIH restFresh]

theorem splitOnce_eq_some_iff : splitOnce separator text = some (before, after) ↔
    text = before ++ separator :: after ∧ separator ∉ before := by
  constructor
  · intro cutAt
    have present : separator ∈ text := Decidable.byContradiction fun absent => by
      rw [splitOnce_eq_none_iff.mpr absent] at cutAt
      cases cutAt
    obtain ⟨start, rest, rfl, fresh⟩ := List.eq_append_cons_of_mem present
    rw [splitOnce_of_not_mem fresh] at cutAt
    cases cutAt
    exact ⟨rfl, fresh⟩
  · rintro ⟨rfl, fresh⟩
    exact splitOnce_of_not_mem fresh after

theorem cut_unique {start rest : List α} (freshBefore : separator ∉ before)
    (freshAfter : separator ∉ after)
    (same : before ++ separator :: after = start ++ separator :: rest) :
    before = start ∧ after = rest := by
  have cutAt := splitOnce_of_not_mem freshBefore after
  by_cases inStart : separator ∈ start
  · obtain ⟨first, second, rfl, fresh⟩ := List.eq_append_cons_of_mem inStart
    rw [same, List.append_assoc, List.cons_append, splitOnce_of_not_mem fresh] at cutAt
    cases cutAt
    exact absurd (List.mem_append_right _ List.mem_cons_self) freshAfter
  · rw [same, splitOnce_of_not_mem inStart] at cutAt
    cases cutAt
    exact ⟨rfl, rfl⟩

theorem splitLast_eq_some_iff : splitLast separator text = some (before, after) ↔
    text = before ++ separator :: after ∧ separator ∉ after := by
  have reversed : splitLast separator text = some (before, after) ↔
      splitOnce separator text.reverse = some (after.reverse, before.reverse) := by
    rw [splitLast, Option.map_eq_some_iff]
    constructor
    · rintro ⟨⟨first, second⟩, cutAt, same⟩
      cases same
      simpa using cutAt
    · intro cutAt
      exact ⟨_, cutAt, by simp⟩
  rw [reversed, splitOnce_eq_some_iff, List.mem_reverse, ← List.reverse_inj]
  simp

theorem joinWith_splitWhere (separator : α) (text : List α) :
    joinWith [separator] (splitWhere (· == separator) text) = text := by
  induction text with
  | nil => rfl
  | cons c rest restIH =>
      obtain ⟨piece, others, restEq, whole⟩ := splitWhere_cons (· == separator) c rest
      rw [restEq] at restIH
      rw [whole]
      by_cases found : c = separator
      · rw [if_pos (beq_iff_eq.mpr found), joinWith_cons_cons, restIH, found]
        rfl
      · rw [if_neg (mt beq_iff_eq.mp found), ← restIH]
        cases others with
        | nil => simp [joinWith]
        | cons next more => rw [joinWith_cons_cons, joinWith_cons_cons, List.cons_append]

theorem splitWhere_append_separator (separator : α) (before after : List α) :
    splitWhere (· == separator) (before ++ separator :: after) =
      splitWhere (· == separator) before ++ splitWhere (· == separator) after :=
  splitWhere_append_cons (by simp) before after

theorem splitWhere_joinWith (given : pieces ≠ []) (fresh : ∀ piece ∈ pieces, separator ∉ piece) :
    splitWhere (· == separator) (joinWith [separator] pieces) = pieces := by
  have uncut : ∀ piece ∈ pieces, ∀ c ∈ piece, (c == separator) = false := by
    intro piece member c inPiece
    exact beq_false_of_ne (ne_of_mem_of_not_mem inPiece (fresh piece member))
  induction pieces with
  | nil => exact absurd rfl given
  | cons piece rest restIH =>
      obtain ⟨first, others⟩ := List.forall_mem_cons.mp uncut
      cases rest with
      | nil => simpa [joinWith] using splitWhere_of_uncut first
      | cons next more =>
          have later := restIH (List.cons_ne_nil _ _) (List.forall_mem_cons.mp fresh).2 others
          rw [joinWith_cons_cons, List.singleton_append, splitWhere_append_separator,
            splitWhere_of_uncut first, later]
          rfl

/-- Being cut into certain pieces and being joined of such pieces is the same, when there
is at least one piece and none of them holds the separator. -/
theorem splitWhere_iff_exists_joinWith {holds : List (List α) → Prop}
    (given : ∀ pieces, holds pieces → pieces ≠ [])
    (fresh : ∀ pieces, holds pieces → ∀ piece ∈ pieces, separator ∉ piece) :
    holds (splitWhere (· == separator) text) ↔
      ∃ pieces, holds pieces ∧ text = joinWith [separator] pieces := by
  constructor
  · intro cut
    exact ⟨_, cut, (joinWith_splitWhere separator text).symm⟩
  · rintro ⟨pieces, held, rfl⟩
    rwa [splitWhere_joinWith (given pieces held) (fresh pieces held)]

end FieldCheck.Text
