import FieldCheck.Text.Casing

namespace FieldCheck.Text

/-! Case mapping settles at once.

What a case mapping maps to is not mapped any further, neither the single characters nor those
of an expansion. That is a fact about the tables, which `upperMap_settled` and
`lowerMap_settled` check. So a text in one case is left alone by the mapping to that case,
wherever its sigmas stand: a lower case text has no capital sigma left.
-/

/-- The number whose bits at the given places are set. -/
def bitsAt (codes : List Nat) : Nat :=
  codes.foldr (fun code bits => 1 <<< code ||| bits) 0

theorem testBit_bitsAt {codes : List Nat} {code : Nat} :
    (bitsAt codes).testBit code = true ↔ code ∈ codes := by
  induction codes with
  | nil => simp [bitsAt]
  | cons first rest restIH =>
      have whole : bitsAt (first :: rest) = 1 <<< first ||| bitsAt rest := rfl
      rw [whole, Nat.testBit_or, Bool.or_eq_true, restIH, Nat.one_shiftLeft,
        Nat.testBit_two_pow, decide_eq_true_eq, List.mem_cons, eq_comm]

theorem not_mem_of_bitsAt {left right : List Nat} (apart : bitsAt left &&& bitsAt right = 0)
    {code : Nat} (member : code ∈ left) : code ∉ right := by
  intro other
  have both : (bitsAt left &&& bitsAt right).testBit code = true := by
    rw [Nat.testBit_and, testBit_bitsAt.mpr member, testBit_bitsAt.mpr other]
    rfl
  rw [apart, Nat.zero_testBit] at both
  cases both

namespace CodeShift

def codes (shift : CodeShift) : List Nat :=
  (List.range ((shift.last - shift.first) / shift.step + 1)).map fun count =>
    shift.first + shift.step * count

theorem mem_codes {shift : CodeShift} {code : Nat} (contained : shift.contains code = true) :
    code ∈ shift.codes := by
  simp only [contains, Bool.and_eq_true, decide_eq_true_eq, beq_iff_eq] at contained
  obtain ⟨⟨least, most⟩, inStep⟩ := contained
  have within : (code - shift.first) / shift.step < (shift.last - shift.first) / shift.step + 1 :=
    Nat.lt_succ_of_le (Nat.div_le_div_right (Nat.sub_le_sub_right most _))
  have whole := Nat.div_add_mod (code - shift.first) shift.step
  refine List.mem_map.mpr ⟨_, List.mem_range.mpr within, ?_⟩
  omega

end CodeShift

namespace CodeMap

variable {map : CodeMap} {c d : Char}

/-- The codes that the mapping says anything about. -/
def sources (map : CodeMap) : List Nat :=
  map.expansions.map Prod.fst ++ map.shifts.flatMap CodeShift.codes

def images (map : CodeMap) : List Nat :=
  map.expansions.flatMap Prod.snd ++
    map.shifts.flatMap fun shift => shift.codes.map shift.move

theorem mem_images_of_get? {chars : List Char} (mapped : map.get? c = some chars)
    (member : d ∈ chars) : ∃ code ∈ map.images, d = Char.ofNat code := by
  unfold get? at mapped
  split at mapped
  · rename_i codes found
    obtain ⟨before, after, listed, -⟩ := List.lookup_eq_some_iff.mp found
    have entry : (c.toNat, codes) ∈ map.expansions := by simp [listed]
    cases mapped
    obtain ⟨code, among, rfl⟩ := List.mem_map.mp member
    exact ⟨code, List.mem_append_left _ (List.mem_flatMap.mpr ⟨_, entry, among⟩), rfl⟩
  · split at mapped
    · rename_i shift found
      have contained : shift.contains c.toNat = true := by simpa using List.find?_some found
      have moved : shift.move c.toNat ∈ shift.codes.map shift.move :=
        List.mem_map_of_mem (CodeShift.mem_codes contained)
      cases mapped
      refine ⟨_, List.mem_append_right _ (List.mem_flatMap.mpr ⟨shift, ?_, moved⟩),
        List.mem_singleton.mp member⟩
      exact List.mem_of_find?_eq_some found
    · cases mapped

theorem get?_eq_none_of_not_mem (unmentioned : c.toNat ∉ map.sources) : map.get? c = none := by
  obtain ⟨unexpanded, unmoved⟩ := not_or.mp (mt List.mem_append.mpr unmentioned)
  have noEntry : map.expansions.lookup c.toNat = none := by
    refine List.lookup_eq_none_iff.mpr fun entry among => bne_iff_ne.mpr ?_
    rintro same
    exact unexpanded (List.mem_map.mpr ⟨entry, among, same.symm⟩)
  have noShift : map.shifts.find? (·.contains c.toNat) = none := by
    refine List.find?_eq_none.mpr fun shift among contained => ?_
    exact unmoved (List.mem_flatMap.mpr ⟨shift, among, CodeShift.mem_codes contained⟩)
  rw [get?, noEntry, noShift]

theorem of_of_get?_eq_none (unmapped : map.get? c = none) : map.of c = [c] := by
  rw [of, unmapped, Option.getD_none]

/-- What is mapped to is characters, none of which is mapped any further, and never nothing. -/
structure Settled (map : CodeMap) : Prop where
  valid : ∀ code ∈ map.images, code.isValidChar
  apart : bitsAt map.images &&& bitsAt map.sources = 0
  given : ∀ entry ∈ map.expansions, entry.2 ≠ []

theorem Settled.of_image (settled : map.Settled) {code : Nat} (member : code ∈ map.images) :
    map.get? (Char.ofNat code) = none := by
  have same : (Char.ofNat code).toNat = code :=
    congrArg Char.toNat (dif_pos (settled.valid code member))
  refine get?_eq_none_of_not_mem ?_
  rw [same]
  exact not_mem_of_bitsAt settled.apart member

/-- A character that some character maps to is not mapped itself. -/
theorem Settled.get?_of_mem (settled : map.Settled) (member : d ∈ map.of c) :
    map.get? d = none := by
  cases mapped : map.get? c with
  | none =>
      rw [of_of_get?_eq_none mapped, List.mem_singleton] at member
      rwa [member]
  | some chars =>
      rw [of, mapped, Option.getD_some] at member
      obtain ⟨code, among, rfl⟩ := mem_images_of_get? mapped member
      exact settled.of_image among

theorem Settled.of_ne_nil (settled : map.Settled) (c : Char) : map.of c ≠ [] := by
  unfold of get?
  split
  · rename_i codes found
    obtain ⟨before, after, listed, -⟩ := List.lookup_eq_some_iff.mp found
    have given := settled.given (c.toNat, codes) (by simp [listed])
    simpa using given
  · split <;> exact List.cons_ne_nil _ _

end CodeMap

theorem upperMap_settled : upperMap.Settled :=
  ⟨by decide +kernel, by decide +kernel, by decide +kernel⟩

theorem lowerMap_settled : lowerMap.Settled :=
  ⟨by decide +kernel, by decide +kernel, by decide +kernel⟩

variable {c : Char} {text : List Char}

theorem upperOf_of_mem {d : Char} (member : d ∈ upperOf c) : upperOf d = [d] :=
  CodeMap.of_of_get?_eq_none (upperMap_settled.get?_of_mem member)

theorem upperCase_of_fixed (fixed : ∀ c ∈ text, upperOf c = [c]) : upperCase text = text := by
  induction text with
  | nil => rfl
  | cons c rest restIH =>
      obtain ⟨first, others⟩ := List.forall_mem_cons.mp fixed
      calc upperCase (c :: rest) = upperOf c ++ upperCase rest := rfl
        _ = [c] ++ rest := by rw [first, restIH others]
        _ = c :: rest := rfl

theorem upperCase_upperCase (text : List Char) : upperCase (upperCase text) = upperCase text := by
  refine upperCase_of_fixed fun d member => ?_
  obtain ⟨c, -, mapped⟩ := List.mem_flatMap.mp member
  exact upperOf_of_mem mapped

/-- The second time the first character is one of those that the first one expanded to. -/
theorem capitalize_capitalize (text : List Char) :
    capitalize (capitalize text) = capitalize text := by
  cases text with
  | nil => rfl
  | cons c rest =>
      obtain ⟨first, more, expanded⟩ := List.exists_cons_of_ne_nil (upperMap_settled.of_ne_nil c)
      have capital : capitalize (c :: rest) = first :: (more ++ rest) :=
        congrArg (· ++ rest) expanded
      have among : first ∈ upperOf c := by
        rw [upperOf, expanded]
        exact List.mem_cons_self
      have fixed : upperOf first = [first] := upperOf_of_mem among
      rw [capital, capitalize, fixed]
      rfl

/-- Nothing that lowering changes, wherever it stands. -/
def IsLower (c : Char) : Prop := c ≠ capitalSigma ∧ lowerOf c = [c]

theorem isLower_of_get?_eq_none (unmapped : lowerMap.get? c = none) : IsLower c := by
  refine ⟨?_, CodeMap.of_of_get?_eq_none unmapped⟩
  rintro rfl
  exact absurd unmapped (by decide +kernel)

theorem isLower_lowerSigma (before after : List Char) : IsLower (lowerSigma before after) := by
  unfold lowerSigma
  split <;> exact isLower_of_get?_eq_none (by decide +kernel)

theorem isLower_of_mem_lowerCaseAfter {before : List Char} {d : Char}
    (member : d ∈ lowerCaseAfter before text) : IsLower d := by
  induction text generalizing before with
  | nil => cases member
  | cons c rest restIH =>
      rcases List.mem_append.mp member with mapped | inRest
      · split at mapped
        · rw [List.mem_singleton.mp mapped]
          exact isLower_lowerSigma before rest
        · exact isLower_of_get?_eq_none (lowerMap_settled.get?_of_mem mapped)
      · exact restIH inRest

theorem lowerCaseAfter_of_isLower (lower : ∀ c ∈ text, IsLower c) (before : List Char) :
    lowerCaseAfter before text = text := by
  induction text generalizing before with
  | nil => rfl
  | cons c rest restIH =>
      obtain ⟨⟨noSigma, fixed⟩, others⟩ := List.forall_mem_cons.mp lower
      rw [lowerCaseAfter, if_neg noSigma, fixed, restIH others]
      rfl

theorem lowerCase_lowerCase (text : List Char) : lowerCase (lowerCase text) = lowerCase text :=
  lowerCaseAfter_of_isLower (fun _ member => isLower_of_mem_lowerCaseAfter member) []

end FieldCheck.Text
