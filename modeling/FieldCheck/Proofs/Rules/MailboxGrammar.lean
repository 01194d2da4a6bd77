import FieldCheck.Proofs.Text.Ascii
import FieldCheck.Rules.Mailbox
import Mathlib.Logic.Basic

namespace FieldCheck.Rules

/-! The grammar of standard addresses.

An address is a series of words, an at sign and a series of sub-domains. A word and a
sub-domain are parts of one kind: an atom, or what stands between an opening and a closing
byte, where a backslash takes away the meaning of the byte behind it. The reader has five
places for each of the two, and goes through both in the same way. So one account of reading
a part serves for both, and so does one of reading a series of parts.
-/

namespace Mailbox

def IsAtomByte (byte : UInt8) : Prop :=
  0x20 < byte ∧ byte < 0x7F ∧ byte ∉ "()<>@,;:\\\".[]".toList.map Char.toUInt8

def IsQuotedByte (byte : UInt8) : Prop := byte < 0x80 ∧ byte ∉ [0x0D, 0x22, 0x5C]

def IsLiteralByte (byte : UInt8) : Prop := byte < 0x80 ∧ byte ∉ [0x0D, 0x5B, 0x5C, 0x5D]

instance : DecidablePred IsAtomByte := fun _ => inferInstanceAs (Decidable (_ ∧ _))

instance : DecidablePred IsQuotedByte := fun _ => inferInstanceAs (Decidable (_ ∧ _))

instance : DecidablePred IsLiteralByte := fun _ => inferInstanceAs (Decidable (_ ∧ _))

theorem isAtomByte_iff (byte : UInt8) : isAtomByte byte = true ↔ IsAtomByte byte := by
  have same : specials = "()<>@,;:\\\".[]".toList.map Char.toUInt8 := by decide
  simp [isAtomByte, IsAtomByte, same, and_assoc]

theorem ne_of_isAtomByte {byte special : UInt8} (isAtom : IsAtomByte byte)
    (isSpecial : ¬IsAtomByte special) : byte ≠ special := by
  rintro rfl
  exact isSpecial isAtom

theorem isQuotedByte_iff (byte : UInt8) : isQuotedByte byte = true ↔ IsQuotedByte byte := by
  simp [isQuotedByte, IsQuotedByte, isAscii, and_assoc]

theorem isLiteralByte_iff (byte : UInt8) : isLiteralByte byte = true ↔ IsLiteralByte byte := by
  simp [isLiteralByte, IsLiteralByte, isAscii, and_assoc]

/-- Two bytes and those that stand for themselves between them. The first one opens no atom,
and the second one and the backslash have a meaning of their own inside. -/
structure Enclosure where
  opening : UInt8
  closing : UInt8
  Plain : UInt8 → Prop
  decidablePlain : DecidablePred Plain
  opening_special : ¬IsAtomByte opening
  closing_not_plain : ¬Plain closing
  backslash_not_plain : ¬Plain 0x5C
  backslash_ne_closing : 0x5C ≠ closing

instance (enclosure : Enclosure) : DecidablePred enclosure.Plain := enclosure.decidablePlain

/-- Plain bytes, and pairs of a backslash and any byte of ASCII. -/
inductive IsBody (Plain : UInt8 → Prop) : List UInt8 → Prop
  | nothing : IsBody Plain []
  | plain {byte : UInt8} {rest : List UInt8} :
      Plain byte → IsBody Plain rest → IsBody Plain (byte :: rest)
  | pair {byte : UInt8} {rest : List UInt8} :
      byte < 0x80 → IsBody Plain rest → IsBody Plain (0x5C :: byte :: rest)

inductive IsPart (enclosure : Enclosure) : List UInt8 → Prop
  | atom {bytes : List UInt8} :
      bytes ≠ [] → (∀ byte ∈ bytes, IsAtomByte byte) → IsPart enclosure bytes
  | enclosed {body : List UInt8} : IsBody enclosure.Plain body →
      IsPart enclosure (enclosure.opening :: (body ++ [enclosure.closing]))

def IsSeries (enclosure : Enclosure) (bytes : List UInt8) : Prop :=
  ∃ parts, parts ≠ [] ∧ (∀ part ∈ parts, IsPart enclosure part) ∧
    bytes = Text.joinWith [0x2E] parts

def quotation : Enclosure :=
  ⟨0x22, 0x22, IsQuotedByte, inferInstance, by decide, by decide, by decide, by decide⟩

def brackets : Enclosure :=
  ⟨0x5B, 0x5D, IsLiteralByte, inferInstance, by decide, by decide, by decide, by decide⟩

abbrev IsLocalPart : List UInt8 → Prop := IsSeries quotation

abbrev IsDomain : List UInt8 → Prop := IsSeries brackets

def IsAddress (bytes : List UInt8) : Prop :=
  ∃ localPart domain, bytes = localPart ++ 0x40 :: domain ∧ IsLocalPart localPart ∧ IsDomain domain

theorem IsSeries.single {enclosure : Enclosure} {part : List UInt8} (isPart : IsPart enclosure part) :
    IsSeries enclosure part :=
  ⟨[part], List.cons_ne_nil _ _, List.forall_mem_singleton.mpr isPart, by simp [Text.joinWith]⟩

theorem IsSeries.cons {enclosure : Enclosure} {part rest : List UInt8}
    (isPart : IsPart enclosure part) (series : IsSeries enclosure rest) :
    IsSeries enclosure (part ++ 0x2E :: rest) := by
  obtain ⟨parts, given, each, rfl⟩ := series
  obtain ⟨next, more, rfl⟩ := List.exists_cons_of_ne_nil given
  exact ⟨part :: next :: more, List.cons_ne_nil _ _, List.forall_mem_cons.mpr ⟨isPart, each⟩,
    (Text.joinWith_cons_cons [0x2E] part next more).symm⟩

theorem readFrom_cons (place : Place) (byte : UInt8) (rest : List UInt8) :
    readFrom place (byte :: rest) = readFrom (step place byte) rest := rfl

theorem readFrom_fault (bytes : List UInt8) : readFrom .fault bytes = false := by
  induction bytes with
  | nil => rfl
  | cons byte rest restIH => rw [readFrom_cons, step, restIH]

/-- The places that the reader goes through in a part. -/
structure Route where
  start : Place
  atom : Place
  inside : Place
  pair : Place
  done : Place

/-- What the reader does at these places. Of the place behind a part only that much is said:
it cannot be left by a byte of an atom, so an atom is read as far as it goes. -/
structure Route.Reads (route : Route) (enclosure : Enclosure) : Prop where
  unfinished : accepting route.start = false ∧ accepting route.inside = false ∧
    accepting route.pair = false
  finished : accepting route.atom = accepting route.done
  atStart : ∀ byte, step route.start byte =
    if byte = enclosure.opening then route.inside
    else if IsAtomByte byte then route.atom
    else .fault
  inAtom : ∀ byte, step route.atom byte =
    if IsAtomByte byte then route.atom else step route.done byte
  atDone : ∀ byte, IsAtomByte byte → step route.done byte = .fault
  inside : ∀ byte, step route.inside byte =
    if byte = enclosure.closing then route.done
    else if byte = 0x5C then route.pair
    else if enclosure.Plain byte then route.inside
    else .fault
  inPair : ∀ byte, step route.pair byte = if byte < 0x80 then route.inside else .fault

def words : Route := ⟨.wordStart, .wordAtom, .quoted, .quotedPair, .quotedEnd⟩

def subDomains : Route := ⟨.domainStart, .domainAtom, .literal, .literalPair, .literalEnd⟩

theorem words_reads : words.Reads quotation where
  unfinished := ⟨rfl, rfl, rfl⟩
  finished := rfl
  atStart byte := if_congr Iff.rfl rfl (if_congr (isAtomByte_iff byte) rfl rfl)
  inAtom byte := if_congr (isAtomByte_iff byte) rfl rfl
  atDone byte isAtom := by
    have noDot : byte ≠ 0x2E := ne_of_isAtomByte isAtom (by decide)
    have noAt : byte ≠ 0x40 := ne_of_isAtomByte isAtom (by decide)
    simp [words, step, afterWord, noDot, noAt]
  inside byte := if_congr Iff.rfl rfl
    (if_congr Iff.rfl rfl (if_congr (isQuotedByte_iff byte) rfl rfl))
  inPair _ := if_congr decide_eq_true_iff rfl rfl

theorem subDomains_reads : subDomains.Reads brackets where
  unfinished := ⟨rfl, rfl, rfl⟩
  finished := rfl
  atStart byte := if_congr Iff.rfl rfl (if_congr (isAtomByte_iff byte) rfl rfl)
  inAtom byte := if_congr (isAtomByte_iff byte) rfl rfl
  atDone byte isAtom := by
    have noDot : byte ≠ 0x2E := ne_of_isAtomByte isAtom (by decide)
    simp [subDomains, step, afterDomain, noDot]
  inside byte := if_congr Iff.rfl rfl
    (if_congr Iff.rfl rfl (if_congr (isLiteralByte_iff byte) rfl rfl))
  inPair _ := if_congr decide_eq_true_iff rfl rfl

section Part

variable {route : Route} {enclosure : Enclosure} {bytes : List UInt8}

theorem Route.Reads.atom_of_done (reads : route.Reads enclosure)
    (accepted : readFrom route.done bytes = true) : readFrom route.atom bytes = true := by
  cases bytes with
  | nil => exact reads.finished.trans accepted
  | cons byte rest =>
      have other : ¬IsAtomByte byte := by
        intro isAtom
        rw [readFrom_cons, reads.atDone byte isAtom, readFrom_fault] at accepted
        cases accepted
      rwa [readFrom_cons, reads.inAtom, if_neg other]

theorem Route.Reads.atom_iff (reads : route.Reads enclosure) :
    readFrom route.atom bytes = true ↔ ∃ run rest, bytes = run ++ rest ∧
      (∀ byte ∈ run, IsAtomByte byte) ∧ readFrom route.done rest = true := by
  constructor
  · intro accepted
    induction bytes with
    | nil => exact ⟨[], [], rfl, by simp, reads.finished.symm.trans accepted⟩
    | cons byte rest restIH =>
        rw [readFrom_cons, reads.inAtom] at accepted
        by_cases isAtom : IsAtomByte byte
        · rw [if_pos isAtom] at accepted
          obtain ⟨run, behind, rfl, each, accepted⟩ := restIH accepted
          exact ⟨byte :: run, behind, rfl, List.forall_mem_cons.mpr ⟨isAtom, each⟩, accepted⟩
        · rw [if_neg isAtom] at accepted
          exact ⟨[], byte :: rest, rfl, by simp, accepted⟩
  · rintro ⟨run, rest, rfl, each, accepted⟩
    induction run with
    | nil => exact reads.atom_of_done accepted
    | cons byte run runIH =>
        obtain ⟨isAtom, each⟩ := List.forall_mem_cons.mp each
        rw [List.cons_append, readFrom_cons, reads.inAtom, if_pos isAtom]
        exact runIH each

theorem Route.Reads.body_of_inside (reads : route.Reads enclosure) :
    ∀ bytes, readFrom route.inside bytes = true → ∃ body rest,
      bytes = body ++ enclosure.closing :: rest ∧ IsBody enclosure.Plain body ∧
        readFrom route.done rest = true
  | [], accepted => absurd (reads.unfinished.2.1.symm.trans accepted) Bool.false_ne_true
  | byte :: rest, accepted => by
      rw [readFrom_cons, reads.inside] at accepted
      by_cases closed : byte = enclosure.closing
      · rw [if_pos closed] at accepted
        exact ⟨[], rest, congrArg (· :: rest) closed, .nothing, accepted⟩
      rw [if_neg closed] at accepted
      -- A pair takes two bytes at once, so an induction byte by byte would not do.
      by_cases escaped : byte = 0x5C
      · rw [if_pos escaped] at accepted
        match rest with
        | [] => exact absurd (reads.unfinished.2.2.symm.trans accepted) Bool.false_ne_true
        | second :: rest =>
            rw [readFrom_cons, reads.inPair] at accepted
            by_cases ascii : second < 0x80
            · rw [if_pos ascii] at accepted
              obtain ⟨body, behind, rfl, isBody, accepted⟩ := reads.body_of_inside rest accepted
              exact ⟨byte :: second :: body, behind, rfl, escaped ▸ isBody.pair ascii, accepted⟩
            · rw [if_neg ascii, readFrom_fault] at accepted
              cases accepted
      rw [if_neg escaped] at accepted
      by_cases plain : enclosure.Plain byte
      · rw [if_pos plain] at accepted
        obtain ⟨body, behind, rfl, isBody, accepted⟩ := reads.body_of_inside rest accepted
        exact ⟨byte :: body, behind, rfl, isBody.plain plain, accepted⟩
      · rw [if_neg plain, readFrom_fault] at accepted
        cases accepted

theorem Route.Reads.inside_of_body (reads : route.Reads enclosure) {body rest : List UInt8}
    (isBody : IsBody enclosure.Plain body) (accepted : readFrom route.done rest = true) :
    readFrom route.inside (body ++ enclosure.closing :: rest) = true := by
  induction isBody with
  | nothing => rwa [List.nil_append, readFrom_cons, reads.inside, if_pos rfl]
  | @plain byte _ isPlain _ restIH =>
      have unclosed : byte ≠ enclosure.closing := by
        rintro rfl
        exact enclosure.closing_not_plain isPlain
      have unescaped : byte ≠ 0x5C := by
        rintro rfl
        exact enclosure.backslash_not_plain isPlain
      rwa [List.cons_append, readFrom_cons, reads.inside, if_neg unclosed, if_neg unescaped,
        if_pos isPlain]
  | pair ascii _ restIH =>
      rwa [List.cons_append, List.cons_append, readFrom_cons, reads.inside,
        if_neg enclosure.backslash_ne_closing, if_pos rfl, readFrom_cons, reads.inPair,
        if_pos ascii]

theorem Route.Reads.start_iff (reads : route.Reads enclosure) :
    readFrom route.start bytes = true ↔ ∃ part rest, bytes = part ++ rest ∧
      IsPart enclosure part ∧ readFrom route.done rest = true := by
  constructor
  · intro accepted
    cases bytes with
    | nil => exact absurd (reads.unfinished.1.symm.trans accepted) Bool.false_ne_true
    | cons byte rest =>
        rw [readFrom_cons, reads.atStart] at accepted
        by_cases opened : byte = enclosure.opening
        · rw [if_pos opened] at accepted
          obtain ⟨body, behind, rfl, isBody, accepted⟩ := reads.body_of_inside rest accepted
          exact ⟨_, behind, by simp [opened], .enclosed isBody, accepted⟩
        rw [if_neg opened] at accepted
        by_cases isAtom : IsAtomByte byte
        · rw [if_pos isAtom] at accepted
          obtain ⟨run, behind, rfl, each, accepted⟩ := reads.atom_iff.mp accepted
          exact ⟨byte :: run, behind, rfl,
            .atom (List.cons_ne_nil _ _) (List.forall_mem_cons.mpr ⟨isAtom, each⟩), accepted⟩
        · rw [if_neg isAtom, readFrom_fault] at accepted
          cases accepted
  · rintro ⟨part, rest, rfl, isPart, accepted⟩
    cases isPart with
    | atom given each =>
        obtain ⟨byte, run, rfl⟩ := List.exists_cons_of_ne_nil given
        obtain ⟨isAtom, each⟩ := List.forall_mem_cons.mp each
        have unopened := ne_of_isAtomByte isAtom enclosure.opening_special
        rw [List.cons_append, readFrom_cons, reads.atStart, if_neg unopened, if_pos isAtom]
        exact reads.atom_iff.mpr ⟨run, rest, rfl, each, accepted⟩
    | enclosed isBody =>
        rw [List.cons_append, List.append_assoc, readFrom_cons, reads.atStart, if_pos rfl]
        exact reads.inside_of_body isBody accepted

/-- Where a dot leads back to the start and nothing else does, a series is read, and then
whatever may end it. -/
theorem Route.Reads.series_iff (reads : route.Reads enclosure) {Ending : List UInt8 → Prop}
    (after : ∀ bytes, readFrom route.done bytes = true ↔
      (∃ rest, bytes = 0x2E :: rest ∧ readFrom route.start rest = true) ∨ Ending bytes) :
    readFrom route.start bytes = true ↔ ∃ series rest, bytes = series ++ rest ∧
      IsSeries enclosure series ∧ Ending rest := by
  constructor
  · -- A part may have any length, so what stands behind its dot is only known to be shorter.
    induction length : bytes.length using Nat.strongRecOn generalizing bytes with
    | ind size shorterIH =>
      intro accepted
      obtain ⟨part, rest, rfl, isPart, isDone⟩ := reads.start_iff.mp accepted
      rcases (after rest).mp isDone with ⟨behind, rfl, again⟩ | ending
      · have shorter : behind.length < size := by
          rw [← length, List.length_append, List.length_cons]
          omega
        obtain ⟨series, rest, rfl, isSeries, ending⟩ := shorterIH _ shorter rfl again
        exact ⟨part ++ 0x2E :: series, rest, by simp, isSeries.cons isPart, ending⟩
      · exact ⟨part, rest, rfl, .single isPart, ending⟩
  · rintro ⟨series, rest, rfl, ⟨parts, given, each, rfl⟩, ending⟩
    induction parts with
    | nil => exact absurd rfl given
    | cons part others othersIH =>
        obtain ⟨isPart, each⟩ := List.forall_mem_cons.mp each
        cases others with
        | nil =>
            have alone : Text.joinWith [0x2E] [part] = part := by simp [Text.joinWith]
            rw [alone]
            exact reads.start_iff.mpr ⟨part, rest, rfl, isPart, (after rest).mpr (.inr ending)⟩
        | cons next more =>
            have later := othersIH (List.cons_ne_nil _ _) each
            refine reads.start_iff.mpr ⟨part, _, ?_, isPart, (after _).mpr (.inl ⟨_, rfl, later⟩)⟩
            simp [Text.joinWith_cons_cons]

end Part

variable {bytes : List UInt8}

theorem words_done_iff : readFrom words.done bytes = true ↔
    (∃ rest, bytes = 0x2E :: rest ∧ readFrom words.start rest = true) ∨
      ∃ rest, bytes = 0x40 :: rest ∧ readFrom subDomains.start rest = true := by
  cases bytes with
  | nil => simp [words, readFrom, accepting]
  | cons byte rest =>
      simp only [readFrom_cons, words, subDomains, step, afterWord, List.cons.injEq]
      split
      · simp_all
      · split <;> simp_all [readFrom_fault]

theorem subDomains_done_iff : readFrom subDomains.done bytes = true ↔
    (∃ rest, bytes = 0x2E :: rest ∧ readFrom subDomains.start rest = true) ∨ bytes = [] := by
  cases bytes with
  | nil => simp [subDomains, readFrom, accepting]
  | cons byte rest =>
      simp only [readFrom_cons, subDomains, step, afterDomain, List.cons.injEq]
      split <;> simp_all [readFrom_fault]

theorem readFrom_domainStart_iff : readFrom .domainStart bytes = true ↔ IsDomain bytes := by
  rw [show Place.domainStart = subDomains.start from rfl,
    subDomains_reads.series_iff fun _ => subDomains_done_iff]
  constructor
  · rintro ⟨domain, rest, rfl, isDomain, rfl⟩
    rwa [List.append_nil]
  · intro isDomain
    exact ⟨bytes, [], (List.append_nil bytes).symm, isDomain, rfl⟩

theorem readFrom_wordStart_iff : readFrom .wordStart bytes = true ↔ IsAddress bytes := by
  rw [show Place.wordStart = words.start from rfl,
    words_reads.series_iff fun _ => words_done_iff]
  constructor
  · rintro ⟨localPart, _, rfl, isLocal, domain, rfl, accepted⟩
    exact ⟨localPart, domain, rfl, isLocal, readFrom_domainStart_iff.mp accepted⟩
  · rintro ⟨localPart, domain, rfl, isLocal, isDomain⟩
    exact ⟨localPart, _, rfl, isLocal, domain, rfl, readFrom_domainStart_iff.mpr isDomain⟩

theorem step_of_beyond (place : Place) {byte : UInt8} (beyond : ¬byte < 0x80) :
    step place byte = .fault := by
  have differs {ascii : UInt8} (within : ascii < 0x80) : byte ≠ ascii := by
    rintro rfl
    exact beyond within
  have notAtom : isAtomByte byte = false := by
    rw [← Bool.not_eq_true, isAtomByte_iff]
    intro isAtom
    exact beyond (UInt8.lt_trans isAtom.2.1 (by decide))
  cases place <;> simp [step, afterWord, afterDomain, isQuotedByte, isLiteralByte, isAscii,
    beyond, notAtom, differs]

theorem ascii_of_readFrom {place : Place} (accepted : readFrom place bytes = true) :
    ∀ byte ∈ bytes, byte < 0x80 := by
  induction bytes generalizing place with
  | nil => simp
  | cons byte rest restIH =>
      rw [readFrom_cons] at accepted
      refine List.forall_mem_cons.mpr ⟨?_, restIH accepted⟩
      refine Decidable.byContradiction fun beyond => ?_
      rw [step_of_beyond place beyond, readFrom_fault] at accepted
      cases accepted

end Mailbox

theorem isAscii_of_emailRfc {text : List Char} (accepted : emailRfc text = true) :
    Text.IsAscii text :=
  Text.isAscii_of_utf8 (Mailbox.ascii_of_readFrom accepted)

/-- The reader accepts the addresses of the grammar and nothing else. -/
theorem emailRfc_iff_mailbox (text : List Char) :
    (emailRfc text = true ↔ Mailbox.IsAddress (Text.utf8 text)) ∧
      (emailRfc text = true → Text.IsAscii text) :=
  ⟨Mailbox.readFrom_wordStart_iff, isAscii_of_emailRfc⟩

end FieldCheck.Rules
