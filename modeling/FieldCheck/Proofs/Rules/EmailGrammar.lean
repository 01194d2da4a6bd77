import FieldCheck.Proofs.Text.Separators
import FieldCheck.Rules.Email

namespace FieldCheck.Rules

/-! The grammar of everyday e-mail addresses.

An address is a local part, an at sign, a domain and perhaps a port, put together in any way
that fits. The matcher tries one way alone: it cuts at the first at sign, behind it at the
first colon, and a host name at its last dot. No local part holds an at sign, no domain a
colon and no top label a dot. So when any way fits, the one that is tried does.
-/

/-- Simple case folding, as far as it leads to letters of ASCII. -/
def foldCase (c : Char) : Char :=
  if c = '\u017F' then 's' else if c = '\u212A' then 'k' else Text.asciiLower c

def IsLetter (c : Char) : Prop := 'a' ≤ foldCase c ∧ foldCase c ≤ 'z'

def IsAlphanumeric (c : Char) : Prop := IsLetter c ∨ '0' ≤ c ∧ c ≤ '9'

def IsWordCharacter (c : Char) : Prop :=
  IsAlphanumeric c ∨ c ∈ "-_'+*$^&%=~!?\x7b\x7d".toList

def IsHostCharacter (c : Char) : Prop := IsAlphanumeric c ∨ c = '-' ∨ c = '.'

/-- Digits of every script. -/
def IsDecimalDigit (c : Char) : Prop := Text.isDecimalDigit c = true

instance : DecidablePred IsLetter := fun _ => inferInstanceAs (Decidable (_ ∧ _))

instance : DecidablePred IsAlphanumeric := fun _ => inferInstanceAs (Decidable (_ ∨ _))

instance : DecidablePred IsWordCharacter := fun _ => inferInstanceAs (Decidable (_ ∨ _))

instance : DecidablePred IsHostCharacter := fun _ => inferInstanceAs (Decidable (_ ∨ _))

instance : DecidablePred IsDecimalDigit := fun _ => inferInstanceAs (Decidable (_ = true))

theorem isAsciiLetter_iff (c : Char) :
    Text.isAsciiLetter c = true ↔ 'a' ≤ Text.asciiLower c ∧ Text.asciiLower c ≤ 'z' := by
  rw [Text.isAsciiLetter, Text.asciiLower]
  split
  · rename_i upper
    obtain ⟨least, most⟩ : 65 ≤ c.toNat ∧ c.toNat ≤ 90 := upper
    have valid : (c.toNat + 32).isValidChar := .inl (by omega)
    have lower : (Char.ofNat (c.toNat + 32)).toNat = c.toNat + 32 :=
      congrArg Char.toNat (dif_pos valid)
    simp [Char.le_def, UInt32.le_iff_toNat_le, lower]
    omega
  · rename_i other
    simp [other]

theorem isFoldedLetter_iff (c : Char) : isFoldedLetter c = true ↔ IsLetter c := by
  by_cases longS : c = '\u017F'
  · subst longS
    decide
  by_cases kelvin : c = '\u212A'
  · subst kelvin
    decide
  rw [isFoldedLetter, IsLetter, foldCase, if_neg longS, if_neg kelvin, ← isAsciiLetter_iff,
    beq_false_of_ne longS, beq_false_of_ne kelvin, Bool.or_false, Bool.or_false]

theorem isAlphanumeric_iff (c : Char) : isAlphanumeric c = true ↔ IsAlphanumeric c := by
  simp [isAlphanumeric, IsAlphanumeric, isFoldedLetter_iff, Text.isDigit]

theorem isWordCharacter_iff (c : Char) : isWordCharacter c = true ↔ IsWordCharacter c := by
  rw [isWordCharacter, Bool.or_eq_true, isAlphanumeric_iff, List.contains_iff_mem]
  rfl

theorem isHostCharacter_iff (c : Char) : isHostCharacter c = true ↔ IsHostCharacter c := by
  simp [isHostCharacter, IsHostCharacter, isAlphanumeric_iff, or_assoc]

variable {text : List Char}

theorem madeOf_iff {member : Char → Bool} {Member : Char → Prop}
    (reflects : ∀ c, member c = true ↔ Member c) :
    madeOf member text = true ↔ text ≠ [] ∧ ∀ c ∈ text, Member c := by
  simp [madeOf, reflects]

structure AreWords (words : List (List Char)) : Prop where
  given : words ≠ []
  each : ∀ word ∈ words, word ≠ [] ∧ ∀ c ∈ word, IsWordCharacter c

/-- Words joined by single dots. -/
def IsLocalPart (text : List Char) : Prop :=
  ∃ words, AreWords words ∧ text = Text.joinWith ['.'] words

structure IsHost (text : List Char) : Prop where
  characters : ∀ c ∈ text, IsHostCharacter c
  starts : ∃ first rest, text = first :: rest ∧ IsAlphanumeric first
  ends : ∃ before last, text = before ++ [last] ∧ IsAlphanumeric last

/-- So many characters of one class. -/
structure IsSpan (Member : Char → Prop) (least most : Nat) (text : List Char) : Prop where
  characters : ∀ c ∈ text, Member c
  atLeast : least ≤ text.length
  atMost : text.length ≤ most

abbrev IsTop : List Char → Prop := IsSpan IsLetter 2 6

abbrev IsGroup : List Char → Prop := IsSpan IsDecimalDigit 1 3

structure AreGroups (groups : List (List Char)) : Prop where
  four : groups.length = 4
  each : ∀ group ∈ groups, IsGroup group

inductive IsDomain : List Char → Prop
  | name {host top : List Char} : IsHost host → IsTop top → IsDomain (host ++ '.' :: top)
  | quad {groups : List (List Char)} : AreGroups groups → IsDomain (Text.joinWith ['.'] groups)

inductive IsPort : List Char → Prop
  | absent : IsPort []
  | number {digits : List Char} :
      digits ≠ [] → (∀ c ∈ digits, IsDecimalDigit c) → IsPort (':' :: digits)

/-- A local part, an at sign, a domain and perhaps a port. -/
def IsAddress (text : List Char) : Prop :=
  ∃ localPart domain port, text = localPart ++ '@' :: (domain ++ port) ∧
    IsLocalPart localPart ∧ IsDomain domain ∧ IsPort port

theorem isSpan_iff {member : Char → Bool} {Member : Char → Prop} {least most : Nat}
    (reflects : ∀ c, member c = true ↔ Member c) :
    (least ≤ text.length && text.length ≤ most && text.all member) = true ↔
      IsSpan Member least most text := by
  simp only [Bool.and_eq_true, decide_eq_true_eq, List.all_eq_true, reflects]
  constructor
  · rintro ⟨⟨atLeast, atMost⟩, characters⟩
    exact ⟨characters, atLeast, atMost⟩
  · rintro ⟨characters, atLeast, atMost⟩
    exact ⟨⟨atLeast, atMost⟩, characters⟩

theorem isTopLabel_iff : isTopLabel text = true ↔ IsTop text :=
  isSpan_iff isFoldedLetter_iff

theorem isDigitGroup_iff : isDigitGroup text = true ↔ IsGroup text :=
  isSpan_iff fun _ => Iff.rfl

theorem isLocalPart_iff : isLocalPart text = true ↔ IsLocalPart text := by
  have fresh : ∀ words, AreWords words → ∀ word ∈ words, '.' ∉ word :=
    fun words areWords word member dot =>
      absurd ((areWords.each word member).2 '.' dot) (by decide)
  rw [IsLocalPart, ← Text.splitWhere_iff_exists_joinWith (fun _ areWords => areWords.given) fresh,
    isLocalPart, List.all_eq_true]
  constructor
  · intro all
    exact ⟨Text.splitWhere_ne_nil _ _, fun word member =>
      (madeOf_iff isWordCharacter_iff).mp (all word member)⟩
  · intro areWords word member
    exact (madeOf_iff isWordCharacter_iff).mpr (areWords.each word member)

theorem isQuad_iff : isQuad text = true ↔
    ∃ groups, AreGroups groups ∧ text = Text.joinWith ['.'] groups := by
  have given : ∀ groups, AreGroups groups → groups ≠ [] := by
    rintro groups ⟨four, -⟩ rfl
    cases four
  have fresh : ∀ groups, AreGroups groups → ∀ group ∈ groups, '.' ∉ group :=
    fun groups areGroups group member dot =>
      absurd ((areGroups.each group member).characters '.' dot) (by decide)
  rw [← Text.splitWhere_iff_exists_joinWith given fresh, isQuad, Bool.and_eq_true, beq_iff_eq,
    List.all_eq_true]
  constructor
  · rintro ⟨four, all⟩
    exact ⟨four, fun group member => isDigitGroup_iff.mp (all group member)⟩
  · rintro ⟨four, each⟩
    exact ⟨four, fun group member => isDigitGroup_iff.mpr (each group member)⟩

theorem isHostBody_iff : isHostBody text = true ↔ IsHost text := by
  rw [isHostBody, Bool.and_eq_true, List.all_eq_true]
  constructor
  · rintro ⟨characters, ends⟩
    split at ends
    · rename_i first last isFirst isLast
      obtain ⟨starts, ends⟩ := Bool.and_eq_true_iff.mp ends
      obtain ⟨rest, firstThen⟩ := List.head?_eq_some_iff.mp isFirst
      obtain ⟨before, thenLast⟩ := List.getLast?_eq_some_iff.mp isLast
      exact ⟨fun c member => (isHostCharacter_iff c).mp (characters c member),
        ⟨first, rest, firstThen, (isAlphanumeric_iff first).mp starts⟩,
        ⟨before, last, thenLast, (isAlphanumeric_iff last).mp ends⟩⟩
    · cases ends
  · rintro ⟨characters, ⟨first, rest, firstThen, starts⟩, ⟨before, last, thenLast, ends⟩⟩
    have isFirst : text.head? = some first := List.head?_eq_some_iff.mpr ⟨rest, firstThen⟩
    have isLast : text.getLast? = some last := List.getLast?_eq_some_iff.mpr ⟨before, thenLast⟩
    refine ⟨fun c member => (isHostCharacter_iff c).mpr (characters c member), ?_⟩
    simp only [isFirst, isLast, (isAlphanumeric_iff _).mpr starts,
      (isAlphanumeric_iff _).mpr ends, Bool.and_self]

theorem isHostName_iff : isHostName text = true ↔
    ∃ host top, text = host ++ '.' :: top ∧ IsHost host ∧ IsTop top := by
  constructor
  · intro accepted
    rw [isHostName] at accepted
    split at accepted
    · rename_i host top cut
      obtain ⟨isHost, isTop⟩ := Bool.and_eq_true_iff.mp accepted
      exact ⟨host, top, (Text.splitLast_eq_some_iff.mp cut).1, isHostBody_iff.mp isHost,
        isTopLabel_iff.mp isTop⟩
    · cases accepted
  · rintro ⟨host, top, whole, isHost, isTop⟩
    have noDot : '.' ∉ top := fun dot => absurd (isTop.characters '.' dot) (by decide)
    rw [isHostName, Text.splitLast_eq_some_iff.mpr ⟨whole, noDot⟩]
    exact Bool.and_eq_true_iff.mpr ⟨isHostBody_iff.mpr isHost, isTopLabel_iff.mpr isTop⟩

theorem isDomain_iff : (isHostName text || isQuad text) = true ↔ IsDomain text := by
  rw [Bool.or_eq_true, isHostName_iff, isQuad_iff]
  constructor
  · rintro (⟨host, top, rfl, isHost, isTop⟩ | ⟨groups, areGroups, rfl⟩)
    · exact .name isHost isTop
    · exact .quad areGroups
  · intro isDomain
    cases isDomain with
    | name isHost isTop => exact .inl ⟨_, _, rfl, isHost, isTop⟩
    | quad areGroups => exact .inr ⟨_, areGroups, rfl⟩

theorem isPort_iff : isPort text = true ↔ IsPort (':' :: text) := by
  rw [isPort, madeOf_iff fun _ => Iff.rfl]
  constructor
  · rintro ⟨given, digits⟩
    exact .number given digits
  · rintro (_ | ⟨given, digits⟩)
    exact ⟨given, digits⟩

theorem at_not_mem_of_isLocalPart (isLocal : IsLocalPart text) : '@' ∉ text := by
  obtain ⟨words, areWords, rfl⟩ := isLocal
  intro inWhole
  rcases Text.mem_joinWith inWhole with same | ⟨word, member, inWord⟩
  · exact absurd same (by decide)
  · exact absurd ((areWords.each word member).2 '@' inWord) (by decide)

theorem colon_not_mem_of_isDomain (isDomain : IsDomain text) : ':' ∉ text := by
  intro inWhole
  cases isDomain with
  | name isHost isTop =>
      rcases List.mem_append.mp inWhole with inHost | behind
      · exact absurd (isHost.characters ':' inHost) (by decide)
      · rcases List.mem_cons.mp behind with same | inTop
        · exact absurd same (by decide)
        · exact absurd (isTop.characters ':' inTop) (by decide)
  | quad areGroups =>
      rcases Text.mem_joinWith inWhole with same | ⟨group, member, inGroup⟩
      · exact absurd same (by decide)
      · exact absurd ((areGroups.each group member).characters ':' inGroup) (by decide)

theorem isHostAndPort_iff : isHostAndPort text = true ↔
    ∃ domain port, text = domain ++ port ∧ IsDomain domain ∧ IsPort port := by
  constructor
  · intro accepted
    rw [isHostAndPort] at accepted
    split at accepted
    · rename_i domain digits cut
      obtain ⟨isDomain, isNumber⟩ := Bool.and_eq_true_iff.mp accepted
      exact ⟨domain, ':' :: digits, (Text.splitOnce_eq_some_iff.mp cut).1,
        isDomain_iff.mp isDomain, isPort_iff.mp isNumber⟩
    · exact ⟨text, [], (List.append_nil text).symm, isDomain_iff.mp accepted, .absent⟩
  · rintro ⟨domain, port, rfl, isDomain, portOf⟩
    -- So the first colon, if there is one, is the one that opens the port.
    have noColon := colon_not_mem_of_isDomain isDomain
    cases portOf with
    | absent =>
        rw [List.append_nil, isHostAndPort, Text.splitOnce_eq_none_iff.mpr noColon]
        exact isDomain_iff.mpr isDomain
    | number given digits =>
        rw [isHostAndPort, Text.splitOnce_of_not_mem noColon]
        exact Bool.and_eq_true_iff.mpr
          ⟨isDomain_iff.mpr isDomain, isPort_iff.mpr (.number given digits)⟩

theorem email_iff_isAddress (text : List Char) : email text = true ↔ IsAddress text := by
  constructor
  · intro accepted
    rw [email] at accepted
    split at accepted
    · rename_i localPart behind cut
      obtain ⟨isLocal, isRest⟩ := Bool.and_eq_true_iff.mp accepted
      obtain ⟨domain, port, rfl, isDomain, portOf⟩ := isHostAndPort_iff.mp isRest
      exact ⟨localPart, domain, port, (Text.splitOnce_eq_some_iff.mp cut).1,
        isLocalPart_iff.mp isLocal, isDomain, portOf⟩
    · cases accepted
  · rintro ⟨localPart, domain, port, rfl, isLocal, isDomain, portOf⟩
    rw [email, Text.splitOnce_of_not_mem (at_not_mem_of_isLocalPart isLocal)]
    exact Bool.and_eq_true_iff.mpr
      ⟨isLocalPart_iff.mpr isLocal, isHostAndPort_iff.mpr ⟨domain, port, rfl, isDomain, portOf⟩⟩

end FieldCheck.Rules
