import FieldCheck.Proofs.RuleSpec.Arguments

namespace FieldCheck.RuleSpec

/-! Where a body is cut, and what is left out of it.

The reader of a body goes from left to right and takes a backslash together with what follows
it. What becomes of a character can as well be told from the text around it: it is escaped if
an odd number of backslashes comes directly before it. The commas that are not escaped cut the
body. Left out beside them are the blanks that follow a cut and the backslashes that escape
something, and nothing else.
-/

open Text

/-- A character of a text, with what is on either side of it. -/
structure Place where
  /-- The nearest character first. -/
  before : List Char
  item : Char
  after : List Char

/-- The places of a text that `before` comes in front of, in order. -/
def placesAfter (before : List Char) : List Char → List Place
  | [] => []
  | c :: rest => ⟨before, c, rest⟩ :: placesAfter (c :: before) rest

def places (text : List Char) : List Place :=
  placesAfter [] text

/-- An odd number of backslashes comes directly before. -/
def isEscaped (before : List Char) : Bool :=
  (before.takeWhile (· == '\\')).length % 2 == 1

/-- A comma that is not escaped comes before, with nothing but blanks in between. -/
def followsCut (before : List Char) : Bool :=
  match before.dropWhile isBlank with
  | ',' :: front => !isEscaped front
  | _ => false

namespace Place

def isCut (place : Place) : Bool :=
  place.item == ',' && !isEscaped place.before

/-- A backslash that is not escaped itself and has something to escape. -/
def escapes (place : Place) : Bool :=
  place.item == '\\' && !isEscaped place.before && !place.after.isEmpty

/-- Neither cut nor kept. -/
def isDropped (place : Place) : Bool :=
  place.escapes || (isBlank place.item && followsCut place.before)

end Place

def kept (places : List Place) : List Char :=
  (places.filter fun place => !place.isDropped).map Place.item

/-- What is kept between one cut and the next. -/
def pieces (places : List Place) : List (List Char) :=
  (splitWhere Place.isCut places).map kept

section Before

variable {c : Char} {before : List Char}

theorem isEscaped_backslash (before : List Char) :
    isEscaped ('\\' :: before) = !isEscaped before := by
  have counted : ('\\' :: before).takeWhile (· == '\\') =
      '\\' :: before.takeWhile (· == '\\') := List.takeWhile_cons_of_pos (beq_self_eq_true _)
  rw [isEscaped, isEscaped, counted, List.length_cons]
  rcases Nat.mod_two_eq_zero_or_one (before.takeWhile (· == '\\')).length with even | odd
  · simp [Nat.add_mod, even]
  · simp [Nat.add_mod, odd]

theorem isEscaped_of_ne (notBackslash : c ≠ '\\') (before : List Char) :
    isEscaped (c :: before) = false := by
  rw [isEscaped, List.takeWhile_cons_of_neg (by simpa using notBackslash)]
  rfl

theorem isEscaped_pair (unescaped : isEscaped before = false) (c : Char) :
    isEscaped (c :: '\\' :: before) = false := by
  by_cases backslash : c = '\\'
  · rw [backslash, isEscaped_backslash, isEscaped_backslash, unescaped]
    rfl
  · exact isEscaped_of_ne backslash _

theorem followsCut_blank (blank : isBlank c = true) (before : List Char) :
    followsCut (c :: before) = followsCut before := by
  rw [followsCut, followsCut, List.dropWhile_cons_of_pos blank]

theorem followsCut_comma (before : List Char) :
    followsCut (',' :: before) = !isEscaped before := by
  have stops : (',' :: before).dropWhile isBlank = ',' :: before :=
    List.dropWhile_cons_of_neg (by decide)
  simp only [followsCut, stops]

theorem followsCut_of_solid (solid : isBlank c = false) (notComma : c ≠ ',')
    (before : List Char) : followsCut (c :: before) = false := by
  have stops : (c :: before).dropWhile isBlank = c :: before :=
    List.dropWhile_cons_of_neg (by simp [solid])
  rw [followsCut, stops]
  split
  · rename_i same
    exact absurd (List.cons.inj same).1 notComma
  · rfl

theorem followsCut_pair (unescaped : isEscaped before = false) (c : Char) :
    followsCut (c :: '\\' :: before) = false := by
  have behindBackslash : followsCut ('\\' :: before) = false :=
    followsCut_of_solid (by decide) (by decide) before
  by_cases comma : c = ','
  · rw [comma, followsCut_comma, isEscaped_backslash, unescaped]
    rfl
  · cases blank : isBlank c with
    | true => rw [followsCut_blank blank, behindBackslash]
    | false => exact followsCut_of_solid blank comma _

end Before

section Pieces

variable {place : Place}

theorem pieces_of_cut (cut : place.isCut = true) (rest : List Place) :
    pieces (place :: rest) = [] :: pieces rest := by
  obtain ⟨piece, others, restEq, whole⟩ := splitWhere_cons Place.isCut place rest
  rw [pieces, pieces, whole, restEq, if_pos cut]
  rfl

theorem pieces_of_dropped (uncut : place.isCut = false) (dropped : place.isDropped = true)
    (rest : List Place) : pieces (place :: rest) = pieces rest := by
  obtain ⟨piece, others, restEq, whole⟩ := splitWhere_cons Place.isCut place rest
  have lost : kept (place :: piece) = kept piece := by simp [kept, dropped]
  rw [pieces, pieces, whole, restEq, if_neg (by simp [uncut]), List.map_cons, lost, List.map_cons]

theorem pieces_of_kept (uncut : place.isCut = false) (stays : place.isDropped = false)
    (rest : List Place) : pieces (place :: rest) = extend place.item (pieces rest) := by
  obtain ⟨piece, others, restEq, whole⟩ := splitWhere_cons Place.isCut place rest
  have found : kept (place :: piece) = place.item :: kept piece := by simp [kept, stays]
  rw [pieces, pieces, whole, restEq, if_neg (by simp [uncut]), List.map_cons, found, List.map_cons]
  rfl

end Pieces

section Reader

variable {c : Char} {before rest : List Char}

theorem pieces_backslash (unescaped : isEscaped before = false) (c : Char) (rest : List Char) :
    pieces (placesAfter before ('\\' :: c :: rest)) =
      extend c (pieces (placesAfter (c :: '\\' :: before) rest)) := by
  have follows : followsCut ('\\' :: before) = false :=
    followsCut_of_solid (by decide) (by decide) before
  have escaped : isEscaped ('\\' :: before) = true := by
    rw [isEscaped_backslash, unescaped]
    rfl
  rw [placesAfter, pieces_of_dropped (by simp [Place.isCut])
      (by simp [Place.isDropped, Place.escapes, unescaped]),
    placesAfter, pieces_of_kept (by simp [Place.isCut, escaped])
      (by simp [Place.isDropped, Place.escapes, escaped, follows])]

theorem pieces_comma (unescaped : isEscaped before = false) (rest : List Char) :
    pieces (placesAfter before (',' :: rest)) = [] :: pieces (placesAfter (',' :: before) rest) := by
  rw [placesAfter, pieces_of_cut (by simp [Place.isCut, unescaped])]

theorem pieces_blank (blank : isBlank c = true) (follows : followsCut before = true)
    (rest : List Char) :
    pieces (placesAfter before (c :: rest)) = pieces (placesAfter (c :: before) rest) := by
  have notComma : c ≠ ',' := by
    rintro rfl
    exact absurd blank (by decide)
  rw [placesAfter, pieces_of_dropped (by simp [Place.isCut, notComma])
    (by simp [Place.isDropped, blank, follows])]

/-- A backslash with nothing behind it counts as any other character. -/
theorem pieces_plain (notComma : c ≠ ',') (last : c = '\\' → rest = [])
    (unskipped : (followsCut before && isBlank c) = false) :
    pieces (placesAfter before (c :: rest)) =
      extend c (pieces (placesAfter (c :: before) rest)) := by
  have escapesNothing : Place.escapes ⟨before, c, rest⟩ = false := by
    by_cases backslash : c = '\\'
    · simp [Place.escapes, last backslash]
    · simp [Place.escapes, backslash]
  have stays : Place.isDropped ⟨before, c, rest⟩ = false := by
    rw [Place.isDropped, escapesNothing, Bool.false_or, Bool.and_comm]
    exact unskipped
  rw [placesAfter, pieces_of_kept (by simp [Place.isCut, notComma]) stays]

theorem followsCut_plain (notComma : c ≠ ',')
    (unskipped : (followsCut before && isBlank c) = false) : followsCut (c :: before) = false := by
  cases blank : isBlank c with
  | true =>
      rw [followsCut_blank blank]
      simpa [blank] using unskipped
  | false => exact followsCut_of_solid blank notComma before

end Reader

/-- The reader never stops between a backslash and what it escapes, so what it has yet to read
starts unescaped. It remembers of the text before only whether that ends behind a cut. -/
theorem splitBody_eq_pieces {afterComma : Bool} {before body : List Char}
    (unescaped : isEscaped before = false) (remembered : afterComma = followsCut before) :
    splitBody afterComma body = pieces (placesAfter before body) := by
  fun_induction splitBody afterComma body generalizing before with
  | case1 => rfl
  | case2 afterComma c rest restIH =>
      rw [pieces_backslash unescaped,
        restIH (isEscaped_pair unescaped c) (followsCut_pair unescaped c).symm]
  | case3 afterComma rest _ restIH =>
      have follows : followsCut (',' :: before) = true := by
        rw [followsCut_comma, unescaped]
        rfl
      rw [pieces_comma unescaped, restIH (isEscaped_of_ne (by decide) before) follows.symm]
  | case4 afterComma c rest _ notComma dropped restIH =>
      obtain ⟨behind, blank⟩ := Bool.and_eq_true_iff.mp dropped
      have follows : followsCut before = true := remembered.symm.trans behind
      have notBackslash : c ≠ '\\' := by
        rintro rfl
        exact absurd blank (by decide)
      rw [pieces_blank blank follows, restIH (isEscaped_of_ne notBackslash before)
        (by rw [followsCut_blank blank, follows])]
  | case5 afterComma c rest unpaired notComma unskipped restIH =>
      have last : c = '\\' → rest = [] := fun backslash => by
        cases rest with
        | nil => rfl
        | cons next others => exact (unpaired next others backslash rfl).elim
      rw [remembered, Bool.not_eq_true] at unskipped
      rw [pieces_plain notComma last unskipped]
      by_cases backslash : c = '\\'
      · -- Nothing is left to read, although the next character would be escaped.
        rw [last backslash, splitBody_nil]
        rfl
      · rw [restIH (isEscaped_of_ne backslash before) (followsCut_plain notComma unskipped).symm]

theorem splitBody_false_eq_pieces (body : List Char) :
    splitBody false body = pieces (places body) :=
  splitBody_eq_pieces rfl rfl

theorem length_pieces (places : List Place) :
    (pieces places).length = places.countP Place.isCut + 1 := by
  rw [pieces, List.length_map, length_splitWhere]

theorem flatten_pieces (places : List Place) :
    (pieces places).flatten = kept (places.filter fun place => !place.isCut) := by
  rw [pieces, ← flatten_splitWhere, kept, List.filter_flatten, List.map_flatten, List.map_map]
  rfl

theorem join_map_ofList (texts : List (List Char)) :
    String.join (texts.map String.ofList) = String.ofList texts.flatten := by
  apply String.toList_inj.mp
  simp [String.toList_join, List.flatMap_map]

/-- The arguments are what the unescaped commas of the body cut it into. There is one more of
them than there are such commas, and joined they are the body without these commas, without the
blanks that follow one of them, and without the backslashes that escape something. -/
theorem splitArguments_cuts_at_unescaped_commas (body : String) :
    splitArguments body = (pieces (places body.toList)).map String.ofList ∧
    (splitArguments body).length = (places body.toList).countP Place.isCut + 1 ∧
    String.join (splitArguments body) =
      String.ofList (((places body.toList).filter fun place =>
        !place.isCut && !place.isDropped).map Place.item) := by
  have cut : splitArguments body = (pieces (places body.toList)).map String.ofList := by
    rw [splitArguments, splitBody_false_eq_pieces]
  refine ⟨cut, ?_, ?_⟩
  · rw [cut, List.length_map, length_pieces]
  · rw [cut, join_map_ofList, flatten_pieces, kept, List.filter_filter]
    simp only [Bool.and_comm]

/-- A pair of backslashes before a cut, an escaped comma and blank, and a backslash at the end. -/
example : splitArguments "a\\\\,  b\\, c,\\ d\\" = ["a\\", "b, c", " d\\"] ∧
    (places "a\\\\,  b\\, c,\\ d\\".toList).countP Place.isCut = 2 := by decide

end FieldCheck.RuleSpec
