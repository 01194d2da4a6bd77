import FieldCheck.Proofs.Data.Collect
import FieldCheck.Proofs.Text.Numeral
import FieldCheck.Proofs.Text.Separators
import FieldCheck.Rules.IpAddress

namespace FieldCheck

open Text (splitWhere joinWith writeNat isDigit)

namespace Text

variable {c : Char} {text : List Char} {value digit : Nat}

theorem hexValue?_lt (read : hexValue? c = some digit) : digit < 16 := by
  unfold hexValue? at read
  split at read
  · rename_i decimal
    obtain ⟨least, most⟩ : 48 ≤ c.toNat ∧ c.toNat ≤ 57 := decimal
    cases read
    omega
  · split at read
    · rename_i lower
      obtain ⟨least, most⟩ : 97 ≤ c.toNat ∧ c.toNat ≤ 102 := lower
      cases read
      omega
    · split at read
      · rename_i upper
        obtain ⟨least, most⟩ : 65 ≤ c.toNat ∧ c.toNat ≤ 70 := upper
        cases read
        omega
      · cases read

theorem foldl_hex_lt {digits : List Nat} (each : ∀ digit ∈ digits, digit < 16) (start : Nat) :
    digits.foldl (fun value digit => value * 16 + digit) start <
      (start + 1) * Nat.pow 16 digits.length := by
  induction digits generalizing start with
  | nil => simp
  | cons digit rest restIH =>
      obtain ⟨small, others⟩ := List.forall_mem_cons.mp each
      calc (digit :: rest).foldl (fun value digit => value * 16 + digit) start
          = rest.foldl (fun value digit => value * 16 + digit) (start * 16 + digit) := rfl
        _ < (start * 16 + digit + 1) * Nat.pow 16 rest.length := restIH others _
        _ ≤ ((start + 1) * 16) * Nat.pow 16 rest.length :=
          Nat.mul_le_mul_right _ (by omega)
        _ = (start + 1) * Nat.pow 16 (rest.length + 1) := by
          rw [Nat.mul_assoc, show Nat.pow 16 (rest.length + 1) = 16 * Nat.pow 16 rest.length from
            Nat.pow_succ']

theorem exists_hexDigits (read : valueOfHex? text = some value) :
    ∃ digits, List.Forall₂ (fun c digit => hexValue? c = some digit) text digits ∧
      digits.foldl (fun value digit => value * 16 + digit) 0 = value := by
  obtain ⟨digits, collected, folded⟩ := Option.map_eq_some_iff.mp read
  exact ⟨digits, Collect.mapM_eq_some_iff.mp collected, folded⟩

theorem valueOfHex?_lt (read : valueOfHex? text = some value) :
    value < Nat.pow 16 text.length := by
  obtain ⟨digits, each, rfl⟩ := exists_hexDigits read
  have small : ∀ digit ∈ digits, digit < 16 := by
    intro digit member
    obtain ⟨c, -, digitOf⟩ := Collect.exists_of_mem each.flip member
    exact hexValue?_lt digitOf
  simpa [each.length_eq] using foldl_hex_lt small 0

theorem not_mem_of_valueOfHex? (read : valueOfHex? text = some value)
    (noDigit : hexValue? c = none) : c ∉ text := by
  intro member
  obtain ⟨digits, each, -⟩ := exists_hexDigits read
  obtain ⟨digit, -, digitOf⟩ := Collect.exists_of_mem each member
  rw [noDigit] at digitOf
  cases digitOf

end Text

namespace Rules

variable {text : List Char}

namespace V4Address

variable {address : V4Address}

def write (address : V4Address) : List Char :=
  joinWith ['.'] [writeNat address.a.toNat, writeNat address.b.toNat, writeNat address.c.toNat,
    writeNat address.d.toNat]

theorem octet?_writeNat (value : UInt8) : octet? (writeNat value.toNat) = some value := by
  have digits : ∀ c ∈ writeNat value.toNat, isDigit c = true := fun _ member =>
    Text.isDigit_of_mem_writeNat member
  have short : (writeNat value.toNat).length ≤ 3 :=
    (Text.length_writeNat_le_iff (by decide)).mpr (Nat.lt_trans value.toNat_lt (by decide))
  have unpadded := Text.unpadded_writeNat value.toNat
  unfold Text.Unpadded at unpadded
  have proper : (Text.allDigits (writeNat value.toNat) && (writeNat value.toNat).length ≤ 3 &&
      ((writeNat value.toNat).length == 1 || (writeNat value.toNat).head? != some '0')) = true := by
    simpa [Text.allDigits, short, Text.writeNat_ne_nil, unpadded] using digits
  rw [octet?, if_pos proper, Text.valueOfDigits_writeNat]
  exact (if_pos value.toNat_lt).trans (congrArg some UInt8.ofNat_toNat)

theorem eq_writeNat_of_octet? {value : UInt8} (read : octet? text = some value) :
    text = writeNat value.toNat := by
  unfold octet? at read
  split at read
  · rename_i proper
    simp only [Bool.and_eq_true, Text.allDigits, Bool.not_eq_true', List.isEmpty_eq_false_iff,
      List.all_eq_true, decide_eq_true_eq, Bool.or_eq_true, beq_iff_eq, bne_iff_ne] at proper
    obtain ⟨⟨⟨given, digits⟩, -⟩, unpadded⟩ := proper
    obtain ⟨small, same⟩ := Option.ite_none_right_eq_some.mp read
    obtain rfl := Option.some.inj same
    rw [UInt8.toNat_ofNat_of_lt' small, Text.writeNat_valueOfDigits given digits unpadded]
  · cases read

theorem octet?_eq_some_iff {value : UInt8} :
    octet? text = some value ↔ text = writeNat value.toNat :=
  ⟨eq_writeNat_of_octet?, fun written => written ▸ octet?_writeNat value⟩

theorem splitWhere_write (address : V4Address) : splitWhere (· == '.') address.write =
    [writeNat address.a.toNat, writeNat address.b.toNat, writeNat address.c.toNat,
      writeNat address.d.toNat] := by
  refine Text.splitWhere_joinWith (List.cons_ne_nil _ _) fun piece member dot => ?_
  simp only [List.mem_cons, List.not_mem_nil, or_false] at member
  rcases member with rfl | rfl | rfl | rfl
  all_goals exact absurd (Text.isDigit_of_mem_writeNat dot) (by decide)

theorem read?_eq_some_iff : read? text = some address ↔ text = address.write := by
  constructor
  · intro read
    unfold read? at read
    split at read
    · rename_i a b c d octets
      cases read
      obtain ⟨first, afterFirst, cut, readFirst, octets⟩ := List.map_eq_cons_iff.mp octets
      obtain ⟨second, afterSecond, rfl, readSecond, octets⟩ := List.map_eq_cons_iff.mp octets
      obtain ⟨third, afterThird, rfl, readThird, octets⟩ := List.map_eq_cons_iff.mp octets
      obtain ⟨fourth, afterFourth, rfl, readFourth, octets⟩ := List.map_eq_cons_iff.mp octets
      obtain rfl := List.map_eq_nil_iff.mp octets
      rw [← Text.joinWith_splitWhere '.' text, cut, octet?_eq_some_iff.mp readFirst,
        octet?_eq_some_iff.mp readSecond, octet?_eq_some_iff.mp readThird,
        octet?_eq_some_iff.mp readFourth]
      rfl
    · cases read
  · rintro rfl
    simp only [read?, splitWhere_write, List.map_cons, List.map_nil, octet?_writeNat]

theorem mem_write {c : Char} (member : c ∈ address.write) : c = '.' ∨ isDigit c = true := by
  refine (Text.mem_joinWith member).imp_right ?_
  rintro ⟨piece, among, inPiece⟩
  simp only [List.mem_cons, List.not_mem_nil, or_false] at among
  rcases among with rfl | rfl | rfl | rfl
  all_goals exact Text.isDigit_of_mem_writeNat inPiece

theorem dot_mem_write (address : V4Address) : '.' ∈ address.write := by
  rw [write, Text.joinWith_cons_cons]
  simp

end V4Address

namespace V6Address

variable {address : V6Address} {pieces : List (List Char)} {groups : List UInt16}
  {group : UInt16} {tail : Bool} {before after : List Char}

def toGroups (address : V6Address) : List UInt16 :=
  [address.a, address.b, address.c, address.d, address.e, address.f, address.g, address.h]

theorem ofGroups?_eq_some_iff : ofGroups? groups = some address ↔ groups = address.toGroups := by
  constructor
  · intro made
    unfold ofGroups? at made
    split at made
    · cases made
      rfl
    · cases made
  · rintro rfl
    rfl

/-- One to four hexadecimal digits. -/
structure SpellsGroup (text : List Char) (group : UInt16) : Prop where
  given : text ≠ []
  short : text.length ≤ 4
  value : Text.valueOfHex? text = some group.toNat

/-- A sequence of groups. An address of the older family may stand for the last two of them
where `tail` allows it. -/
inductive SpellsGroups (tail : Bool) : List (List Char) → List UInt16 → Prop
  | none : SpellsGroups tail [] []
  | group {first : List Char} {rest : List (List Char)} {group : UInt16} {groups : List UInt16} :
      SpellsGroup first group → SpellsGroups tail rest groups →
      SpellsGroups tail (first :: rest) (group :: groups)
  | quad (allowed : tail = true) (address : V4Address) :
      SpellsGroups tail [address.write] (ofV4 address)

/-- All eight groups joined by colons, or a double colon in place of one or more zero groups. -/
inductive Denotes : List Char → V6Address → Prop
  | full {pieces : List (List Char)} {address : V6Address} :
      SpellsGroups true pieces address.toGroups → Denotes (joinWith [':'] pieces) address
  | short {leading trailing : List (List Char)} {front back : List UInt16} {zeros : Nat}
      {address : V6Address} : SpellsGroups false leading front → SpellsGroups true trailing back →
      address.toGroups = front ++ List.replicate (zeros + 1) 0 ++ back →
      Denotes (joinWith [':'] leading ++ ':' :: ':' :: joinWith [':'] trailing) address

theorem group?_eq_some_iff : group? text = some group ↔ SpellsGroup text group := by
  constructor
  · intro read
    unfold group? at read
    split at read
    · cases read
    · rename_i proper
      simp only [Bool.or_eq_true, List.isEmpty_iff, decide_eq_true_eq, not_or] at proper
      obtain ⟨given, short⟩ := proper
      obtain ⟨value, valued, rfl⟩ := Option.map_eq_some_iff.mp read
      have small : value < 65536 := Nat.lt_of_lt_of_le (Text.valueOfHex?_lt valued)
        (Nat.pow_le_pow_right (by decide) (Nat.le_of_not_lt short))
      exact ⟨given, Nat.le_of_not_lt short, by rw [valued, UInt16.toNat_ofNat_of_lt' small]⟩
  · rintro ⟨given, short, valued⟩
    have proper : ¬(text.isEmpty || decide (4 < text.length)) = true := by
      simpa [given] using short
    rw [group?, if_neg proper, valued, Option.map_some, UInt16.ofNat_toNat]

theorem SpellsGroup.colon_not_mem (spells : SpellsGroup text group) : ':' ∉ text :=
  Text.not_mem_of_valueOfHex? spells.value (by decide)

theorem SpellsGroup.dot_not_mem (spells : SpellsGroup text group) : '.' ∉ text :=
  Text.not_mem_of_valueOfHex? spells.value (by decide)

theorem group?_write (address : V4Address) : group? address.write = none := by
  refine Option.eq_none_iff_forall_ne_some.mpr fun group read => ?_
  exact (group?_eq_some_iff.mp read).dot_not_mem (V4Address.dot_mem_write address)

theorem spellsGroups_nil_iff : SpellsGroups tail [] groups ↔ groups = [] := by
  constructor
  · rintro ⟨⟩
    rfl
  · rintro rfl
    exact .none

theorem spellsGroups_single_iff {piece : List Char} : SpellsGroups tail [piece] groups ↔
    (∃ group, SpellsGroup piece group ∧ groups = [group]) ∨
      tail = true ∧ ∃ address : V4Address, piece = address.write ∧ groups = ofV4 address := by
  constructor
  · intro spells
    cases spells with
    | group spells rest => exact .inl ⟨_, spells, by rw [spellsGroups_nil_iff.mp rest]⟩
    | quad allowed address => exact .inr ⟨allowed, address, rfl, rfl⟩
  · rintro (⟨group, spells, rfl⟩ | ⟨allowed, address, rfl, rfl⟩)
    · exact .group spells .none
    · exact .quad allowed address

theorem spellsGroups_cons_cons_iff {first next : List Char} {more : List (List Char)} :
    SpellsGroups tail (first :: next :: more) groups ↔
      ∃ group others, SpellsGroup first group ∧ SpellsGroups tail (next :: more) others ∧
        group :: others = groups := by
  constructor
  · intro spells
    cases spells with
    | group spells rest => exact ⟨_, _, spells, rest, rfl⟩
  · rintro ⟨group, others, spells, rest, rfl⟩
    exact .group spells rest

theorem groups?_single_eq_some_iff {piece : List Char} : groups? tail [piece] = some groups ↔
    (∃ group, SpellsGroup piece group ∧ groups = [group]) ∨
      tail = true ∧ ∃ address : V4Address, piece = address.write ∧ groups = ofV4 address := by
  simp only [← group?_eq_some_iff]
  cases found : group? piece with
  | some group =>
      have noQuad (address : V4Address) : piece ≠ address.write := by
        rintro rfl
        rw [group?_write] at found
        cases found
      simp only [groups?, found, Option.some.injEq, exists_eq_left', noQuad, false_and, exists_false,
        and_false, or_false]
      exact eq_comm
  | none =>
      cases tail with
      | false => simp [groups?, found]
      | true =>
          simp only [groups?, found, if_true, Option.map_eq_some_iff, V4Address.read?_eq_some_iff,
            reduceCtorEq, false_and, exists_false, false_or, true_and]
          exact exists_congr fun address => and_congr_right fun _ => eq_comm

theorem groups?_cons_cons (first next : List Char) (more : List (List Char)) :
    groups? tail (first :: next :: more) =
      (group? first).bind fun group => (groups? tail (next :: more)).map (group :: ·) := by
  rw [groups?]
  · cases group? first <;> cases groups? tail (next :: more) <;> rfl
  · exact List.cons_ne_nil next more

theorem groups?_eq_some_iff : groups? tail pieces = some groups ↔ SpellsGroups tail pieces groups := by
  induction pieces generalizing groups with
  | nil => rw [spellsGroups_nil_iff, groups?, Option.some.injEq, eq_comm]
  | cons first rest restIH =>
      cases rest with
      | nil => rw [groups?_single_eq_some_iff, spellsGroups_single_iff]
      | cons next more =>
          simp only [groups?_cons_cons, spellsGroups_cons_cons_iff, Option.bind_eq_some_iff,
            Option.map_eq_some_iff, group?_eq_some_iff, restIH, exists_and_left]

theorem SpellsGroups.each_piece (spells : SpellsGroups tail pieces groups) :
    ∀ piece ∈ pieces, piece ≠ [] ∧ ':' ∉ piece := by
  induction spells with
  | none => simp
  | group firstSpells _ restIH =>
      exact List.forall_mem_cons.mpr ⟨⟨firstSpells.given, firstSpells.colon_not_mem⟩, restIH⟩
  | quad _ address =>
      refine List.forall_mem_singleton.mpr ⟨List.ne_nil_of_mem address.dot_mem_write, ?_⟩
      intro colon
      rcases V4Address.mem_write colon with dot | digit
      · exact absurd dot (by decide)
      · exact absurd digit (by decide)

/-- The cut of a longer text, with more in front. -/
def putBefore (front : List Char) (cut : List Char × List Char) : List Char × List Char :=
  (front ++ cut.1, cut.2)

theorem map_putBefore_map_putBefore (first second : List Char)
    (cut : Option (List Char × List Char)) :
    (cut.map (putBefore second)).map (putBefore first) = cut.map (putBefore (first ++ second)) := by
  cases cut <;> simp [putBefore]

theorem splitDouble_cons {c : Char} (single : c = ':' → text.head? ≠ some ':') :
    splitDouble (c :: text) = (splitDouble text).map (putBefore [c]) := by
  rw [splitDouble]
  · cases splitDouble text <;> rfl
  · rintro rest rfl rfl
    exact single rfl rfl

theorem splitDouble_append {piece : List Char} (noColon : ':' ∉ piece) (text : List Char) :
    splitDouble (piece ++ text) = (splitDouble text).map (putBefore piece) := by
  induction piece with
  | nil => cases cut : splitDouble text <;> simp [cut, putBefore]
  | cons c rest restIH =>
      obtain ⟨differs, restNoColon⟩ := not_or.mp (mt List.mem_cons.mpr noColon)
      rw [List.cons_append, splitDouble_cons fun colon => absurd colon.symm differs,
        restIH restNoColon, map_putBefore_map_putBefore, List.singleton_append]

theorem head?_joinWith_append {piece : List Char} (given : piece ≠ []) (noColon : ':' ∉ piece)
    (rest : List (List Char)) (text : List Char) :
    (joinWith [':'] (piece :: rest) ++ text).head? ≠ some ':' := by
  obtain ⟨c, more, rfl⟩ := List.exists_cons_of_ne_nil given
  have first : (joinWith [':'] ((c :: more) :: rest) ++ text).head? = some c := by
    cases rest with
    | nil => simp [joinWith]
    | cons next others => simp [Text.joinWith_cons_cons]
  rw [first, ne_eq, Option.some.injEq]
  exact fun colon => noColon (colon ▸ List.mem_cons_self)

/-- There is no double colon between pieces, nor at their end. -/
theorem splitDouble_joinWith_append (each : ∀ piece ∈ pieces, piece ≠ [] ∧ ':' ∉ piece)
    (text : List Char) : splitDouble (joinWith [':'] pieces ++ text) =
      (splitDouble text).map (putBefore (joinWith [':'] pieces)) := by
  induction pieces with
  | nil => exact splitDouble_append (by simp [joinWith]) text
  | cons piece rest restIH =>
      obtain ⟨⟨-, noColon⟩, others⟩ := List.forall_mem_cons.mp each
      cases rest with
      | nil => simpa [joinWith] using splitDouble_append noColon text
      | cons next more =>
          obtain ⟨given, nextNoColon⟩ := others next List.mem_cons_self
          rw [Text.joinWith_cons_cons, List.append_assoc, splitDouble_append noColon,
            List.append_assoc, List.singleton_append,
            splitDouble_cons fun _ => head?_joinWith_append given nextNoColon more text,
            restIH others, map_putBefore_map_putBefore, map_putBefore_map_putBefore,
            List.append_assoc]

theorem eq_of_splitDouble (cut : splitDouble text = some (before, after)) :
    text = before ++ ':' :: ':' :: after := by
  induction text generalizing before with
  | nil => cases cut
  | cons c rest restIH =>
      by_cases double : c = ':' ∧ rest.head? = some ':'
      · obtain ⟨rfl, head⟩ := double
        obtain ⟨behind, rfl⟩ := List.head?_eq_some_iff.mp head
        cases cut
        rfl
      · rw [splitDouble_cons fun colon head => double ⟨colon, head⟩] at cut
        obtain ⟨⟨first, second⟩, found, same⟩ := Option.map_eq_some_iff.mp cut
        cases same
        rw [restIH found]
        rfl

theorem joinWith_ne_nil_of_pieces (given : pieces ≠ [])
    (each : ∀ piece ∈ pieces, piece ≠ [] ∧ ':' ∉ piece) : joinWith [':'] pieces ≠ [] := by
  obtain ⟨piece, rest, rfl⟩ := List.exists_cons_of_ne_nil given
  obtain ⟨c, more, rfl⟩ := List.exists_cons_of_ne_nil (each piece List.mem_cons_self).1
  exact List.ne_nil_of_mem (Text.mem_joinWith_of_mem [':'] List.mem_cons_self List.mem_cons_self)

theorem SpellsGroups.splitWhere (spells : SpellsGroups tail pieces groups) (given : pieces ≠ []) :
    splitWhere (· == ':') (joinWith [':'] pieces) = pieces :=
  Text.splitWhere_joinWith given fun piece member => (spells.each_piece piece member).2

theorem side?_eq_some_iff : side? tail text = some groups ↔
    ∃ pieces, SpellsGroups tail pieces groups ∧ text = joinWith [':'] pieces := by
  constructor
  · intro read
    unfold side? at read
    split at read
    · rename_i empty
      cases read
      exact ⟨[], .none, List.isEmpty_iff.mp empty⟩
    · exact ⟨_, groups?_eq_some_iff.mp read, (Text.joinWith_splitWhere ':' text).symm⟩
  · rintro ⟨pieces, spells, rfl⟩
    by_cases given : pieces = []
    · subst given
      rw [spellsGroups_nil_iff.mp spells]
      rfl
    · have nonempty := joinWith_ne_nil_of_pieces given spells.each_piece
      rw [side?, if_neg (mt List.isEmpty_iff.mp nonempty), spells.splitWhere given]
      exact groups?_eq_some_iff.mpr spells

theorem denotes_of_read? (read : read? text = some address) : Denotes text address := by
  unfold read? at read
  split at read
  · obtain ⟨groups, spelled, made⟩ := Option.bind_eq_some_iff.mp read
    have spells := groups?_eq_some_iff.mp spelled
    rw [ofGroups?_eq_some_iff.mp made] at spells
    exact Text.joinWith_splitWhere ':' text ▸ .full spells
  · rename_i before after cut
    split at read
    · rename_i front back leads trails
      obtain ⟨leading, frontSpells, rfl⟩ := side?_eq_some_iff.mp leads
      obtain ⟨trailing, backSpells, rfl⟩ := side?_eq_some_iff.mp trails
      obtain ⟨within, made⟩ := Option.ite_none_right_eq_some.mp read
      have zeros : 8 - (front.length + back.length) = 7 - (front.length + back.length) + 1 := by
        omega
      rw [zeros] at made
      rw [eq_of_splitDouble cut]
      exact .short frontSpells backSpells (ofGroups?_eq_some_iff.mp made).symm
    · cases read

theorem read?_of_denotes (denotes : Denotes text address) : read? text = some address := by
  cases denotes with
  | @full pieces _ spells =>
      have given : pieces ≠ [] := by
        rintro rfl
        cases spellsGroups_nil_iff.mp spells
      have uncut := splitDouble_joinWith_append spells.each_piece []
      rw [List.append_nil] at uncut
      rw [read?, uncut]
      simp only [splitDouble, Option.map_none, spells.splitWhere given]
      rw [groups?_eq_some_iff.mpr spells, Option.bind_some, ofGroups?_eq_some_iff]
  | @short leading trailing front back zeros _ frontSpells backSpells whole =>
      have cut := splitDouble_joinWith_append frontSpells.each_piece
        (':' :: ':' :: joinWith [':'] trailing)
      have count : front.length + (zeros + 1) + back.length = 8 := by
        have eight := congrArg List.length whole
        simpa [toGroups, Nat.add_assoc] using eight.symm
      have zerosEq : 8 - (front.length + back.length) = zeros + 1 := by omega
      have within : front.length + back.length ≤ 7 := by omega
      rw [read?, cut]
      simp only [splitDouble, Option.map_some, putBefore, List.append_nil,
        side?_eq_some_iff.mpr ⟨_, frontSpells, rfl⟩, side?_eq_some_iff.mpr ⟨_, backSpells, rfl⟩,
        within, if_true, zerosEq]
      exact ofGroups?_eq_some_iff.mpr whole.symm

theorem read?_eq_some_iff : read? text = some address ↔ Denotes text address :=
  ⟨denotes_of_read?, read?_of_denotes⟩

theorem Denotes.unique {other : V6Address} (denotes : Denotes text address)
    (also : Denotes text other) : address = other :=
  Option.some.inj ((read?_of_denotes denotes).symm.trans (read?_of_denotes also))

/-- A single piece makes two groups at most. -/
theorem Denotes.colon_mem (denotes : Denotes text address) : ':' ∈ text := by
  cases denotes with
  | short => simp
  | @full pieces _ spells =>
      match pieces, spells with
      | [], spells => cases spellsGroups_nil_iff.mp spells
      | [piece], spells =>
          rcases spellsGroups_single_iff.mp spells with ⟨group, -, whole⟩ | ⟨-, quad, -, whole⟩
          · simp [toGroups] at whole
          · simp [toGroups, ofV4] at whole
      | first :: next :: more, _ =>
          rw [Text.joinWith_cons_cons]
          simp

end V6Address

end Rules

end FieldCheck
