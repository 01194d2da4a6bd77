import FieldCheck.Proofs.Text.Whitespace
import FieldCheck.RuleSpec

namespace FieldCheck.RuleSpec

open Text

variable {c : Char} {afterComma : Bool} {pieces : List (List Char)}

theorem splitBody_nil : splitBody afterComma [] = [[]] := by
  simp [splitBody]

theorem splitBody_comma (rest : List Char) :
    splitBody afterComma (',' :: rest) = [] :: splitBody true rest := by
  simp [splitBody]

theorem splitBody_backslash (c : Char) (rest : List Char) :
    splitBody afterComma ('\\' :: c :: rest) = extend c (splitBody false rest) := by
  simp [splitBody]

theorem splitBody_blank (blank : isBlank c = true) (rest : List Char) :
    splitBody true (c :: rest) = splitBody true rest := by
  have notBackslash : c ≠ '\\' := by rintro rfl; exact absurd blank (by decide)
  have notComma : c ≠ ',' := by rintro rfl; exact absurd blank (by decide)
  simp [splitBody, notBackslash, notComma, blank]

theorem splitBody_plain (notComma : c ≠ ',') (notBackslash : c ≠ '\\')
    (kept : (afterComma && isBlank c) = false) (rest : List Char) :
    splitBody afterComma (c :: rest) = extend c (splitBody false rest) := by
  simp [splitBody, notComma, notBackslash, kept]

theorem splitBody_escape (kept : (afterComma && isBlank c) = false) (rest : List Char) :
    splitBody afterComma (escape c ++ rest) = extend c (splitBody false rest) := by
  by_cases special : c = ',' ∨ c = '\\' ∨ c = ']'
  · rw [escape, if_pos special]
    exact splitBody_backslash c rest
  · have notComma : c ≠ ',' := fun same => special (.inl same)
    have notBackslash : c ≠ '\\' := fun same => special (.inr (.inl same))
    rw [escape, if_neg special]
    exact splitBody_plain notComma notBackslash kept rest

theorem escape_of_blank (blank : isBlank c = true) : escape c = [c] := by
  refine if_neg ?_
  rintro (rfl | rfl | rfl) <;> exact absurd blank (by decide)

/-- Between one argument and the next, or at the end, `tail` ends the argument that is read.
What comes before it is read back, less the blanks that the comma before it takes away. -/
theorem splitBody_written {tail : List Char}
    (stop : ∀ afterComma, splitBody afterComma tail = [] :: pieces) (argument : List Char) :
    splitBody afterComma (argument.flatMap escape ++ tail) =
      (if afterComma then trimStart argument else argument) :: pieces := by
  induction argument generalizing afterComma with
  | nil => cases afterComma <;> exact stop _
  | cons c rest restIH =>
      rw [List.flatMap_cons, List.append_assoc]
      cases dropped : afterComma && isBlank c with
      | true =>
          obtain ⟨rfl, blank⟩ := Bool.and_eq_true_iff.mp dropped
          rw [escape_of_blank blank, List.singleton_append, splitBody_blank blank, restIH,
            if_pos rfl, if_pos rfl, trimStart_cons_blank blank]
      | false =>
          have whole : (if afterComma then trimStart (c :: rest) else c :: rest) = c :: rest := by
            cases afterComma with
            | false => rfl
            | true => exact trimStart_cons_of_not_blank dropped rest
          rw [splitBody_escape dropped, restIH, whole]
          rfl

/-- Arguments with commas between them are read one by one, if each is read as `read` says
whatever ends it. -/
theorem splitBody_joinWith (write : String → List Char) (read : Bool → String → List Char)
    (each : ∀ {tail pieces}, (∀ afterComma, splitBody afterComma tail = [] :: pieces) →
      ∀ afterComma argument, splitBody afterComma (write argument ++ tail) =
        read afterComma argument :: pieces)
    (first : String) (others : List String) :
    splitBody afterComma (joinWith [','] ((first :: others).map write)) =
      read afterComma first :: others.map (read true) := by
  induction others generalizing first afterComma with
  | nil =>
      have cut : joinWith [','] ([first].map write) = write first ++ [] := by simp [joinWith]
      rw [cut, each fun _ => splitBody_nil]
      rfl
  | cons next more moreIH =>
      have cut : joinWith [','] ((first :: next :: more).map write) =
          write first ++ ',' :: joinWith [','] ((next :: more).map write) :=
        joinWith_cons_cons _ _ _ _
      rw [cut, each fun _ => splitBody_comma _, moreIH, List.map_cons]

theorem splitBody_writeArguments (first : String) (others : List String) :
    splitBody afterComma (writeArguments (first :: others)) =
      (if afterComma then trimStart first.toList else first.toList) ::
        others.map fun argument => trimStart argument.toList :=
  splitBody_joinWith (fun argument => argument.toList.flatMap escape)
    (fun afterComma argument =>
      if afterComma then trimStart argument.toList else argument.toList)
    (fun stop _ argument => splitBody_written stop argument.toList) first others

theorem extend_eq_cons (c : Char) (pieces : List (List Char)) :
    ∃ piece others, extend c pieces = (c :: piece) :: others := by
  cases pieces with
  | nil => exact ⟨[], [], rfl⟩
  | cons piece others => exact ⟨piece, others, rfl⟩

theorem splitBody_ne_nil (afterComma : Bool) (body : List Char) :
    splitBody afterComma body ≠ [] := by
  fun_induction splitBody afterComma body with
  | case1 => exact List.cons_ne_nil _ _
  | case3 => exact List.cons_ne_nil _ _
  | case4 _ _ _ _ _ _ restIH => exact restIH
  | case2 _ c rest | case5 _ c rest =>
      obtain ⟨piece, others, extended⟩ := extend_eq_cons c (splitBody false rest)
      rw [extended]
      exact List.cons_ne_nil _ _

/-- A text that is not empty does not come out as one empty argument. -/
theorem splitBody_ne_empty {body : List Char} (given : body ≠ []) :
    splitBody false body ≠ [[]] := by
  fun_cases splitBody false body with
  | case1 => exact absurd rfl given
  | case2 c rest | case5 c rest =>
      obtain ⟨piece, others, extended⟩ := extend_eq_cons c (splitBody false rest)
      simp [extended]
  | case3 rest => exact fun single => splitBody_ne_nil true rest (List.cons.inj single).2
  | case4 _ _ _ _ dropped => cases dropped

end FieldCheck.RuleSpec
