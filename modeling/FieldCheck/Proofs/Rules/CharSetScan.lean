import FieldCheck.Proofs.Rules.CharSetPieces

namespace FieldCheck.Rules.CharSet

/-- What one step takes from the front of a text. -/
inductive Step where
  | single (c : Char)
  | span (first last : Char)
deriving DecidableEq

namespace Step

def text : Step → List Char
  | single c => [c]
  | span first last => [first, '-', last]

def range : Step → Char × Char
  | single c => (c, c)
  | span first last => ordered first last

def Allows (step : Step) (c : Char) : Prop := step.range.1 ≤ c ∧ c ≤ step.range.2

end Step

/-- The steps that take a text from the left. Where a dash and a character more follow, the
step is a span, whatever the three characters are. -/
inductive Scan : List Char → List Step → Prop
  | nil : Scan [] []
  | single {c : Char} {rest : List Char} {steps : List Step}
      (noSpan : ∀ last more, rest ≠ '-' :: last :: more) (tail : Scan rest steps) :
      Scan (c :: rest) (.single c :: steps)
  | span {first last : Char} {rest : List Char} {steps : List Step} (tail : Scan rest steps) :
      Scan (first :: '-' :: last :: rest) (.span first last :: steps)

variable {text : List Char} {steps : List Step} {step : Step} {c : Char}

theorem exists_scan (text : List Char) : ∃ steps, Scan text steps := by
  fun_induction rangesOf text with
  | case1 first last rest restIH =>
      obtain ⟨steps, scan⟩ := restIH
      exact ⟨_, .span scan⟩
  | case2 c rest noSpan restIH =>
      obtain ⟨steps, scan⟩ := restIH
      exact ⟨_, .single noSpan scan⟩
  | case3 => exact ⟨[], .nil⟩

namespace Scan

theorem unique (scan : Scan text steps) {others : List Step} (other : Scan text others) :
    others = steps := by
  induction scan generalizing others with
  | nil => cases other; rfl
  | single noSpan tail tailIH =>
      cases other with
      | single _ otherTail => rw [tailIH otherTail]
      | span _ => exact absurd rfl (noSpan _ _)
  | span tail tailIH =>
      cases other with
      | single noSpan _ => exact absurd rfl (noSpan _ _)
      | span otherTail => rw [tailIH otherTail]

theorem consumes (scan : Scan text steps) : steps.flatMap Step.text = text := by
  induction scan with
  | nil => rfl
  | single _ _ tailIH => simp [Step.text, tailIH]
  | span _ tailIH => simp [Step.text, tailIH]

theorem rangesOf_eq (scan : Scan text steps) : rangesOf text = steps.map Step.range := by
  induction scan with
  | nil => rfl
  | single noSpan _ tailIH => rw [rangesOf, tailIH, List.map_cons, Step.range]; exact noSpan
  | span _ tailIH => rw [rangesOf, tailIH, List.map_cons, Step.range]

end Scan

theorem Step.allows_span_iff {first last : Char} :
    (Step.span first last).Allows c ↔ first ≤ c ∧ c ≤ last ∨ last ≤ c ∧ c ≤ first :=
  mem_ordered_iff

theorem Step.allows_ends (first last : Char) :
    (Step.span first last).Allows first ∧ (Step.span first last).Allows last := by
  simp only [allows_span_iff, Char.le_refl, true_and, and_true]
  exact ⟨Char.le_total first last, Char.le_total first last⟩

theorem Step.allows_of_mem (member : c ∈ step.text) (noDash : c ≠ '-') : step.Allows c := by
  cases step with
  | single only =>
      cases List.mem_singleton.mp member
      exact ⟨Char.le_refl c, Char.le_refl c⟩
  | span first last =>
      have ends : c = first ∨ c = last := by simpa [Step.text, noDash] using member
      rcases ends with rfl | rfl
      · exact (allows_ends c last).1
      · exact (allows_ends first c).2

theorem Step.allows_end (isEnd : step.text.head? = some c ∨ step.text.getLast? = some c) :
    step.Allows c := by
  cases step with
  | single only =>
      have same : only = c := by simpa [Step.text] using isEnd
      exact same ▸ ⟨Char.le_refl only, Char.le_refl only⟩
  | span first last =>
      have ends : first = c ∨ last = c := by simpa [Step.text] using isEnd
      rcases ends with rfl | rfl
      · exact (allows_ends first last).1
      · exact (allows_ends first last).2

theorem Step.mem_or_between (allowed : step.Allows c) : c ∈ step.text ∨
    ∃ first last, step = .span first last ∧ (first < c ∧ c < last ∨ last < c ∧ c < first) := by
  cases step with
  | single only =>
      have same : c = only := Char.le_antisymm allowed.2 allowed.1
      simp [Step.text, same]
  | span first last =>
      by_cases isFirst : c = first
      · simp [Step.text, isFirst]
      by_cases isLast : c = last
      · simp [Step.text, isLast]
      refine .inr ⟨first, last, rfl, ?_⟩
      grind [Step.allows_span_iff.mp allowed]

variable {arguments : List String}

theorem Scan.contains_iff (scan : Scan (joined arguments) steps) :
    (ofArguments arguments).contains c = true ↔ ∃ step ∈ steps, step.Allows c := by
  rw [contains_ofArguments_iff, scan.rangesOf_eq]
  simp [Step.Allows]

theorem Scan.allows_of_mem (scan : Scan text steps) (member : c ∈ text) (noDash : c ≠ '-') :
    ∃ step ∈ steps, step.Allows c := by
  rw [← scan.consumes] at member
  obtain ⟨step, taken, inStep⟩ := List.mem_flatMap.mp member
  exact ⟨step, taken, Step.allows_of_mem inStep noDash⟩

theorem Scan.allows_end (scan : Scan text steps)
    (isEnd : text.head? = some c ∨ text.getLast? = some c) : ∃ step ∈ steps, step.Allows c := by
  rw [← scan.consumes, List.head?_flatMap, List.getLast?_flatMap] at isEnd
  rcases isEnd with first | last
  · obtain ⟨step, taken, found⟩ := List.exists_of_findSome?_eq_some first
    exact ⟨step, taken, Step.allows_end (.inl found)⟩
  · obtain ⟨step, taken, found⟩ := List.exists_of_findSome?_eq_some last
    exact ⟨step, List.mem_reverse.mp taken, Step.allows_end (.inr found)⟩

theorem Scan.exists_around_span (scan : Scan text steps) {first last : Char}
    (taken : .span first last ∈ steps) :
    ∃ before after, text = before ++ first :: '-' :: last :: after := by
  obtain ⟨earlier, later, rfl⟩ := List.append_of_mem taken
  refine ⟨earlier.flatMap Step.text, later.flatMap Step.text, ?_⟩
  rw [← scan.consumes, List.flatMap_append, List.flatMap_cons]
  rfl

theorem Scan.mem_or_between (scan : Scan text steps) (taken : step ∈ steps)
    (allowed : step.Allows c) : c ∈ text ∨ ∃ before first last after,
      text = before ++ first :: '-' :: last :: after ∧
        (first < c ∧ c < last ∨ last < c ∧ c < first) := by
  rcases Step.mem_or_between allowed with inStep | ⟨first, last, rfl, between⟩
  · refine .inl ?_
    rw [← scan.consumes]
    exact List.mem_flatMap.mpr ⟨step, taken, inStep⟩
  · obtain ⟨before, after, around⟩ := scan.exists_around_span taken
    exact .inr ⟨before, first, last, after, around, between⟩

/-- All of the text that the arguments make is taken, in one series of steps and no other, and
the ranges of the set are those of the steps. No character but a dash is lost, and no dash at
either end of the text; all of each span is allowed; and what is allowed stands in the text or
strictly between two characters of it that a single dash sets apart. -/
theorem ofArguments_keeps_characters (arguments : List String) :
    ∃ steps, Scan (joined arguments) steps ∧
      (∀ others, Scan (joined arguments) others → others = steps) ∧
      steps.flatMap Step.text = joined arguments ∧
      (ofArguments arguments).ranges = steps.map Step.range ∧
      (∀ c ∈ joined arguments, c ≠ '-' → (ofArguments arguments).contains c = true) ∧
      (∀ c, (joined arguments).head? = some c ∨ (joined arguments).getLast? = some c →
        (ofArguments arguments).contains c = true) ∧
      (∀ first last, .span first last ∈ steps →
        ∀ c, first ≤ c ∧ c ≤ last ∨ last ≤ c ∧ c ≤ first →
          (ofArguments arguments).contains c = true) ∧
      ∀ c, (ofArguments arguments).contains c = true → c ∈ joined arguments ∨
        ∃ before first last after,
          joined arguments = before ++ first :: '-' :: last :: after ∧
            (first < c ∧ c < last ∨ last < c ∧ c < first) := by
  obtain ⟨steps, scan⟩ := exists_scan (joined arguments)
  refine ⟨steps, scan, fun _ => scan.unique, scan.consumes, scan.rangesOf_eq, ?_⟩
  simp only [scan.contains_iff]
  refine ⟨fun c => scan.allows_of_mem, fun c => scan.allows_end, ?_, ?_⟩
  · intro first last taken c between
    exact ⟨_, taken, Step.allows_span_iff.mpr between⟩
  · rintro c ⟨step, taken, allowed⟩
    exact scan.mem_or_between taken allowed

/-- Dashes in front of a character make a span of it, and a dash behind a span is none. -/
theorem dashes_of_crowded_text_are_kept :
    Scan (joined ["--a-", "d-f-"])
        [.span '-' 'a', .single '-', .span 'd' 'f', .single '-'] ∧
      (ofArguments ["--a-", "d-f-"]).contains 'e' = true ∧
      (ofArguments ["--a-", "d-f-"]).contains '-' = true ∧
      (ofArguments ["--a-", "d-f-"]).contains 'b' = false := by
  obtain ⟨steps, scan, only, -, -, -, ends, spans, -⟩ :=
    ofArguments_keeps_characters ["--a-", "d-f-"]
  have crowded : Scan (joined ["--a-", "d-f-"])
      [.span '-' 'a', .single '-', .span 'd' 'f', .single '-'] :=
    .span (.single (by simp) (.span (.single (by simp) .nil)))
  have taken : .span 'd' 'f' ∈ steps := by simp [← only _ crowded]
  exact ⟨crowded, spans 'd' 'f' taken 'e' (by decide), ends '-' (by decide), by decide⟩

end FieldCheck.Rules.CharSet
