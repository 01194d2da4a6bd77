import FieldCheck.Domain.Direction
import FieldCheck.Domain.Name
import FieldCheck.Text.Category
import FieldCheck.Text.Quoted

namespace FieldCheck.Text

namespace CodeRanges

variable {ranges : CodeRanges} {code : Nat}

theorem ascending_cons {first last : Nat} :
    ascending ((first, last) :: ranges) = true ↔
      first ≤ last ∧ (∀ range ∈ ranges.head?, last < range.1) ∧ ranges.ascending = true := by
  cases ranges with
  | nil => simp [ascending]
  | cons next rest => simp [ascending, and_assoc]

/-- Once a range starts beyond a code, so do all that follow. -/
theorem lt_of_ascending (inOrder : ranges.ascending = true)
    (beyond : ∀ range ∈ ranges.head?, code < range.1) : ∀ range ∈ ranges, code < range.1 := by
  induction ranges generalizing code with
  | nil => simp
  | cons head rest restIH =>
      obtain ⟨ordered, apart, restInOrder⟩ := ascending_cons.mp inOrder
      have above : code < head.1 := beyond head rfl
      have others := restIH restInOrder fun range next =>
        Nat.lt_trans (Nat.lt_of_lt_of_le above ordered) (apart range next)
      exact List.forall_mem_cons.mpr ⟨above, others⟩

/-- Where the scan ends early it misses nothing. -/
theorem contains_iff (inOrder : ranges.ascending = true) :
    ranges.contains code = true ↔ ∃ range ∈ ranges, range.1 ≤ code ∧ code ≤ range.2 := by
  induction ranges with
  | nil => simp [contains]
  | cons head rest restIH =>
      obtain ⟨first, last⟩ := head
      rw [contains]
      split
      · rename_i below
        have missed : ∀ range ∈ (first, last) :: rest, code < range.1 :=
          lt_of_ascending inOrder (by simpa using below)
        simp only [Bool.false_eq_true, false_iff, not_exists, not_and]
        exact fun range member reached => absurd (missed range member) (Nat.not_lt.mpr reached)
      · rename_i reached
        simp [restIH (ascending_cons.mp inOrder).2.2, Nat.not_lt.mp reached]

/-- The sets that characters are looked up in. -/
def all : List CodeRanges :=
  [letterRanges, numberRanges, decimalDigitRanges, separatorRanges, connectorRanges, dashRanges,
    otherPunctuationRanges, markRanges, casedRanges, caseIgnorableRanges, graphemeExtendRanges,
    unprintableRanges, Domain.ignoredRanges, Domain.disallowedRanges]

theorem contains_iff_of_mem_all (known : ranges ∈ all) :
    ranges.contains code = true ↔ ∃ range ∈ ranges, range.1 ≤ code ∧ code ≤ range.2 := by
  have inOrder : ∀ ranges ∈ all, ranges.ascending = true := by decide +kernel
  exact contains_iff (inOrder ranges known)

end CodeRanges

namespace CodeTable

variable {α : Type} {table : CodeTable α} {code : Nat} {value : α}

/-- The ranges that a table says something about. -/
def ranges (table : CodeTable α) : CodeRanges :=
  table.map fun entry => (entry.1, entry.2.1)

/-- A range that holds the code comes with the value. -/
def Says (table : CodeTable α) (code : Nat) (value : α) : Prop :=
  ∃ first last, (first, last, value) ∈ table ∧ first ≤ code ∧ code ≤ last

theorem says_cons {first last : Nat} {own : α} :
    Says ((first, last, own) :: table) code value ↔
      own = value ∧ first ≤ code ∧ code ≤ last ∨ Says table code value := by
  constructor
  · rintro ⟨start, final, member, holds⟩
    rcases List.mem_cons.mp member with same | later
    · cases same
      exact .inl ⟨rfl, holds⟩
    · exact .inr ⟨start, final, later, holds⟩
  · rintro (⟨rfl, holds⟩ | ⟨start, final, later, holds⟩)
    · exact ⟨first, last, List.mem_cons_self, holds⟩
    · exact ⟨start, final, List.mem_cons_of_mem _ later, holds⟩

theorem not_says_of_lt (missed : ∀ range ∈ ranges table, code < range.1) :
    ¬Says table code value := by
  rintro ⟨first, last, member, reached, -⟩
  exact absurd (missed (first, last) (List.mem_map_of_mem member)) (Nat.not_lt.mpr reached)

theorem get?_eq_some_iff (inOrder : (ranges table).ascending = true) :
    CodeTable.get? table code = some value ↔ Says table code value := by
  induction table with
  | nil => simp [get?, Says]
  | cons head rest restIH =>
      obtain ⟨first, last, own⟩ := head
      obtain ⟨-, apart, restInOrder⟩ := CodeRanges.ascending_cons.mp inOrder
      rw [get?]
      split
      · rename_i below
        have missed : ∀ range ∈ ranges ((first, last, own) :: rest), code < range.1 :=
          CodeRanges.lt_of_ascending inOrder (by simpa [ranges] using below)
        exact iff_of_false (by simp) (not_says_of_lt missed)
      · rename_i reached
        split
        · rename_i within
          have missed : ∀ range ∈ ranges rest, code < range.1 :=
            CodeRanges.lt_of_ascending restInOrder fun range next =>
              Nat.lt_of_le_of_lt within (apart range next)
          simp [says_cons, not_says_of_lt missed, within, Nat.not_lt.mp reached]
        · rename_i beyond
          rw [restIH restInOrder]
          simp [says_cons, beyond]

/-- The tables say what their ranges say. -/
theorem get?_tables_iff (code : Nat) :
    (∀ rank, CodeTable.get? combiningClasses code = some rank ↔
      Says combiningClasses code rank) ∧
    (∀ joining, CodeTable.get? Domain.joiningTypes code = some joining ↔
      Says Domain.joiningTypes code joining) ∧
    ∀ direction, CodeTable.get? Domain.directions code = some direction ↔
      Says Domain.directions code direction :=
  ⟨fun _ => get?_eq_some_iff (by decide +kernel), fun _ => get?_eq_some_iff (by decide +kernel),
    fun _ => get?_eq_some_iff (by decide +kernel)⟩

end CodeTable

end FieldCheck.Text
