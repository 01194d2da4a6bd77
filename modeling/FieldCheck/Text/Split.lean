namespace FieldCheck.Text

/-- Cuts at every item that satisfies `cut`, which is dropped. There is always one
piece more than there are cuts. -/
def splitWhere (cut : α → Bool) : List α → List (List α)
  | [] => [[]]
  | item :: rest =>
      match splitWhere cut rest with
      | [] => [[item]]
      | piece :: pieces =>
          if cut item then [] :: piece :: pieces else (item :: piece) :: pieces

def splitOnce [DecidableEq α] (separator : α) : List α → Option (List α × List α)
  | [] => none
  | item :: rest =>
      if item = separator then some ([], rest)
      else (splitOnce separator rest).map fun (before, after) => (item :: before, after)

def splitLast [DecidableEq α] (separator : α) (items : List α) : Option (List α × List α) :=
  (splitOnce separator items.reverse).map fun (after, before) => (before.reverse, after.reverse)

def joinWith (separator : List α) (pieces : List (List α)) : List α :=
  (pieces.intersperse separator).flatten

theorem splitWhere_ne_nil (cut : α → Bool) (items : List α) : splitWhere cut items ≠ [] := by
  induction items with
  | nil => simp [splitWhere]
  | cons item rest restIH =>
      cases pieces : splitWhere cut rest with
      | nil => exact absurd pieces restIH
      | cons piece more => by_cases found : cut item <;> simp [splitWhere, pieces, found]

theorem splitWhere_cons (cut : α → Bool) (item : α) (rest : List α) :
    ∃ piece pieces, splitWhere cut rest = piece :: pieces ∧
      splitWhere cut (item :: rest) =
        if cut item then [] :: piece :: pieces else (item :: piece) :: pieces := by
  cases found : splitWhere cut rest with
  | nil => exact absurd found (splitWhere_ne_nil cut rest)
  | cons piece pieces => exact ⟨piece, pieces, rfl, by simp [splitWhere, found]⟩

end FieldCheck.Text
