import FieldCheck.Proofs.Rules.EmailGrammar
import FieldCheck.Proofs.Rules.MailboxGrammar

namespace FieldCheck.Rules

/-! Everyday addresses among the standard ones.

An everyday address without its port is made of characters that can all stand in an atom, as
long as they are of ASCII, of dots and of one at sign. Its words are atoms then, and so are
the labels of its domain, if they are not empty. But the everyday grammar lets a dot stand
next to another one in a domain, and it takes two letters and many digits from beyond ASCII.
-/

open Text

variable {text localPart domain port : List Char}

/-- How an everyday address is put together. -/
structure AddressParts (text localPart domain port : List Char) : Prop where
  whole : text = localPart ++ '@' :: (domain ++ port)
  isLocal : IsLocalPart localPart
  isDomain : IsDomain domain
  isPort : IsPort port

theorem exists_addressParts (accepted : email text = true) :
    ∃ localPart domain port, AddressParts text localPart domain port := by
  rw [email] at accepted
  split at accepted
  · rename_i localPart behind cut
    obtain ⟨isLocal, isRest⟩ := Bool.and_eq_true_iff.mp accepted
    obtain ⟨domain, port, rfl, isDomain, isPort⟩ := isHostAndPort_iff.mp isRest
    exact ⟨localPart, domain, port, (splitOnce_eq_some_iff.mp cut).1,
      isLocalPart_iff.mp isLocal, isDomain, isPort⟩
  · cases accepted

theorem of_each_ascii (Holds : Char → Prop) (each : ∀ code < 0x80, Holds (Char.ofNat code))
    {c : Char} (ascii : c.toNat < 0x80) : Holds c :=
  Char.ofNat_toNat c ▸ each c.toNat ascii

theorem isAtomByte_of_isWordCharacter {c : Char} (ascii : c.toNat < 0x80) :
    IsWordCharacter c → Mailbox.IsAtomByte c.toUInt8 :=
  of_each_ascii (fun c => IsWordCharacter c → Mailbox.IsAtomByte c.toUInt8)
    (by decide +kernel) ascii

theorem isAtomByte_of_isHostCharacter {c : Char} (ascii : c.toNat < 0x80) (noDot : c ≠ '.') :
    IsHostCharacter c → Mailbox.IsAtomByte c.toUInt8 :=
  of_each_ascii (fun c => c ≠ '.' → IsHostCharacter c → Mailbox.IsAtomByte c.toUInt8)
    (by decide +kernel) ascii noDot

theorem isHostCharacter_of_isDecimalDigit {c : Char} (ascii : c.toNat < 0x80) :
    IsDecimalDigit c → IsHostCharacter c :=
  of_each_ascii (fun c => IsDecimalDigit c → IsHostCharacter c) (by decide +kernel) ascii

theorem isHostCharacter_of_isDomain (ascii : IsAscii domain) (isDomain : IsDomain domain) :
    ∀ c ∈ domain, IsHostCharacter c := by
  intro c member
  cases isDomain with
  | name isHost isTop =>
      rcases List.mem_append.mp member with inHost | behind
      · exact isHost.characters c inHost
      · rcases List.mem_cons.mp behind with rfl | inTop
        · exact .inr (.inr rfl)
        · exact .inl (.inl (isTop.characters c inTop))
  | quad areGroups =>
      rcases mem_joinWith member with rfl | ⟨group, among, inGroup⟩
      · exact .inr (.inr rfl)
      · exact isHostCharacter_of_isDecimalDigit (ascii c member)
          ((areGroups.each group among).characters c inGroup)

theorem not_mem_domain {c : Char} (ascii : IsAscii domain) (isDomain : IsDomain domain)
    (foreign : ¬IsHostCharacter c) : c ∉ domain :=
  fun member => foreign (isHostCharacter_of_isDomain ascii isDomain c member)

section Series

variable {enclosure : Mailbox.Enclosure} {pieces : List (List Char)}

theorem isPart_utf8 {piece : List Char} (ascii : IsAscii piece) (given : piece ≠ [])
    (each : ∀ c ∈ piece, Mailbox.IsAtomByte c.toUInt8) :
    Mailbox.IsPart enclosure (utf8 piece) := by
  refine .atom ?_ fun byte member => ?_
  · rwa [utf8_of_ascii ascii, Ne, List.map_eq_nil_iff]
  · obtain ⟨c, inPiece, rfl⟩ := (mem_utf8_of_ascii ascii).mp member
    exact each c inPiece

theorem isSeries_utf8 (given : pieces ≠ [])
    (each : ∀ piece ∈ pieces, Mailbox.IsPart enclosure (utf8 piece)) :
    Mailbox.IsSeries enclosure (utf8 (joinWith ['.'] pieces)) :=
  ⟨pieces.map utf8, by simpa using given, List.forall_mem_map.mpr each, utf8_joinWith _ _⟩

/-- A series without an opening byte is one of atoms, so none of its parts is empty. -/
theorem parts_ne_nil_of_isSeries {parts : List (List UInt8)}
    (unopened : enclosure.opening ∉ joinWith [0x2E] parts)
    (each : ∀ part ∈ parts, Mailbox.IsPart enclosure part) :
    ∀ part ∈ parts, part ≠ [] ∧ (0x2E : UInt8) ∉ part := by
  intro part among
  cases each part among with
  | atom given atoms => exact ⟨given, fun dot => absurd (atoms _ dot) (by decide)⟩
  | enclosed isBody =>
      exact absurd (mem_joinWith_of_mem _ among List.mem_cons_self) unopened

end Series

theorem isLocalPart_utf8 (ascii : IsAscii localPart) (isLocal : IsLocalPart localPart) :
    Mailbox.IsLocalPart (utf8 localPart) := by
  obtain ⟨words, areWords, rfl⟩ := isLocal
  refine isSeries_utf8 areWords.given fun word among => ?_
  have wordAscii : IsAscii word := fun c inWord => ascii c (mem_joinWith_of_mem _ among inWord)
  obtain ⟨given, characters⟩ := areWords.each word among
  exact isPart_utf8 wordAscii given fun c inWord =>
    isAtomByte_of_isWordCharacter (wordAscii c inWord) (characters c inWord)

def labels (domain : List Char) : List (List Char) := splitWhere (· == '.') domain

theorem isDomain_utf8_iff (ascii : IsAscii domain) (isDomain : IsDomain domain) :
    Mailbox.IsDomain (utf8 domain) ↔ [] ∉ labels domain := by
  have whole : joinWith ['.'] (labels domain) = domain := joinWith_splitWhere '.' domain
  have inDomain : ∀ label ∈ labels domain, ∀ c ∈ label, c ∈ domain ∧ c ≠ '.' := by
    intro label among c inLabel
    have uncut := uncut_of_mem_splitWhere among c inLabel
    exact ⟨whole ▸ mem_joinWith_of_mem _ among inLabel, by simpa using uncut⟩
  constructor
  · -- Cut at the dots, the bytes give the parts of the series and the labels of the domain.
    rintro ⟨parts, given, each, series⟩ empty
    have unopened : Mailbox.brackets.opening ∉ joinWith [0x2E] parts := by
      rw [← series]
      exact mt (toUInt8_mem_utf8_iff (c := '[') ascii (by decide)).mp
        (not_mem_domain ascii isDomain (by decide))
    have solid := parts_ne_nil_of_isSeries unopened each
    have same : (labels domain).map utf8 = parts := by
      rw [labels, ← splitWhere_utf8 ascii (by decide), series]
      exact splitWhere_joinWith given fun part among => (solid part among).2
    have emptyPart : [] ∈ parts := same ▸ List.mem_map.mpr ⟨[], empty, rfl⟩
    exact (solid [] emptyPart).1 rfl
  · intro noEmpty
    rw [← whole]
    refine isSeries_utf8 (splitWhere_ne_nil _ _) fun label among => ?_
    have given : label ≠ [] := fun empty => noEmpty (empty ▸ among)
    refine isPart_utf8 (fun c inLabel => ascii c (inDomain label among c inLabel).1) given ?_
    intro c inLabel
    obtain ⟨member, noDot⟩ := inDomain label among c inLabel
    exact isAtomByte_of_isHostCharacter (ascii c member) noDot
      (isHostCharacter_of_isDomain ascii isDomain c member)

theorem isAddress_utf8_iff (ascii : IsAscii (localPart ++ '@' :: domain))
    (isLocal : IsLocalPart localPart) (isDomain : IsDomain domain) :
    Mailbox.IsAddress (utf8 (localPart ++ '@' :: domain)) ↔ Mailbox.IsDomain (utf8 domain) := by
  obtain ⟨localAscii, -, domainAscii⟩ := (isAscii_append.trans (and_congr_right' isAscii_cons)).mp ascii
  have whole : utf8 (localPart ++ '@' :: domain) = utf8 localPart ++ 0x40 :: utf8 domain :=
    utf8_append _ _
  have localFresh : '@'.toUInt8 ∉ utf8 localPart :=
    mt (toUInt8_mem_utf8_iff localAscii (by decide)).mp (at_not_mem_of_isLocalPart isLocal)
  have domainFresh : '@'.toUInt8 ∉ utf8 domain :=
    mt (toUInt8_mem_utf8_iff domainAscii (by decide)).mp
      (not_mem_domain domainAscii isDomain (by decide))
  rw [whole]
  constructor
  · -- The series could be cut at another at sign, but there is no other.
    rintro ⟨start, rest, cut, -, isRest⟩
    obtain ⟨-, rfl⟩ := cut_unique localFresh domainFresh cut
    exact isRest
  · intro isStandard
    exact ⟨_, _, rfl, isLocalPart_utf8 localAscii isLocal, isStandard⟩

/-- An everyday address less its port is a standard address just when it is of ASCII and no
label of its domain is empty. The words of its local part are never empty. -/
theorem everyday_address_is_standard_iff (accepted : email text = true) :
    (∃ localPart domain port, AddressParts text localPart domain port) ∧
      ∀ localPart domain port, AddressParts text localPart domain port →
        (emailRfc (localPart ++ '@' :: domain) = true ↔
          IsAscii (localPart ++ '@' :: domain) ∧ [] ∉ labels domain) := by
  refine ⟨exists_addressParts accepted, fun localPart domain port parts => ?_⟩
  constructor
  · intro standard
    have ascii := isAscii_of_emailRfc standard
    have isAddress := Mailbox.readFrom_wordStart_iff.mp standard
    rw [isAddress_utf8_iff ascii parts.isLocal parts.isDomain] at isAddress
    have domainAscii := (isAscii_cons.mp (isAscii_append.mp ascii).2).2
    exact ⟨ascii, (isDomain_utf8_iff domainAscii parts.isDomain).mp isAddress⟩
  · rintro ⟨ascii, noEmpty⟩
    have domainAscii := (isAscii_cons.mp (isAscii_append.mp ascii).2).2
    have isStandard := (isDomain_utf8_iff domainAscii parts.isDomain).mpr noEmpty
    exact Mailbox.readFrom_wordStart_iff.mpr
      ((isAddress_utf8_iff ascii parts.isLocal parts.isDomain).mpr isStandard)

theorem address_with_port_is_standard :
    email "o'brien+list@mail.example-1.ie:25".toList = true ∧
      AddressParts "o'brien+list@mail.example-1.ie:25".toList "o'brien+list".toList
        "mail.example-1.ie".toList ":25".toList ∧
      emailRfc ("o'brien+list".toList ++ '@' :: "mail.example-1.ie".toList) = true := by
  have accepted : email "o'brien+list@mail.example-1.ie:25".toList = true := by decide
  have parts : AddressParts "o'brien+list@mail.example-1.ie:25".toList "o'brien+list".toList
      "mail.example-1.ie".toList ":25".toList :=
    ⟨by decide, isLocalPart_iff.mp (by decide), isDomain_iff.mp (by decide),
      isPort_iff.mp (by decide)⟩
  exact ⟨accepted, parts,
    ((everyday_address_is_standard_iff accepted).2 _ _ _ parts).mpr
      ⟨by decide, by decide⟩⟩

/-- A domain with two dots in a row, and one with the Kelvin sign for a letter, are no
standard domains. -/
theorem everyday_addresses_beyond_standard :
    email "user@a..b.org".toList = true ∧ emailRfc "user@a..b.org".toList = false ∧
      email "user@\u212Aelvin.org".toList = true ∧
      emailRfc "user@\u212Aelvin.org".toList = false ∧
      ¬∀ text localPart domain port, email text = true →
        AddressParts text localPart domain port →
        emailRfc (localPart ++ '@' :: domain) = true := by
  refine ⟨by decide, by decide, by decide, by decide, fun always => ?_⟩
  have parts : AddressParts "user@a..b.org".toList "user".toList "a..b.org".toList [] :=
    ⟨by decide, isLocalPart_iff.mp (by decide), isDomain_iff.mp (by decide), .absent⟩
  exact absurd (always _ _ _ _ (by decide) parts) (by decide)

end FieldCheck.Rules
