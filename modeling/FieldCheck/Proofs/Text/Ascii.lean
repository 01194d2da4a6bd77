import FieldCheck.Proofs.Text.Separators
import FieldCheck.Text.Utf8

namespace FieldCheck.Text

def IsAscii (text : List Char) : Prop := ∀ c ∈ text, c.toNat < 0x80

instance : DecidablePred IsAscii :=
  List.decidableBAll fun c : Char => c.toNat < 0x80

variable {c : Char} {text : List Char}

theorem utf8_append (before after : List Char) :
    utf8 (before ++ after) = utf8 before ++ utf8 after :=
  List.flatMap_append

theorem utf8_joinWith (separator : List Char) (pieces : List (List Char)) :
    utf8 (joinWith separator pieces) = joinWith (utf8 separator) (pieces.map utf8) := by
  induction pieces with
  | nil => rfl
  | cons piece rest restIH =>
      cases rest with
      | nil => simp [joinWith]
      | cons next more =>
          rw [joinWith_cons_cons, utf8_append, utf8_append, restIH]
          exact (joinWith_cons_cons _ _ _ _).symm

theorem utf8EncodeChar_of_ascii (ascii : c.toNat < 0x80) :
    String.utf8EncodeChar c = [c.toUInt8] :=
  String.utf8EncodeChar_eq_singleton
    (Char.utf8Size_eq_one_iff.mpr (UInt32.le_iff_toNat_le.mpr (Nat.le_of_lt_succ ascii)))

theorem toNat_toUInt8_of_ascii (ascii : c.toNat < 0x80) : c.toUInt8.toNat = c.toNat :=
  Nat.mod_eq_of_lt (Nat.lt_trans ascii (by decide))

theorem toUInt8_inj_of_ascii {other : Char} (ascii : c.toNat < 0x80) (otherAscii : other.toNat < 0x80)
    (same : c.toUInt8 = other.toUInt8) : c = other := by
  have codes := congrArg UInt8.toNat same
  rw [toNat_toUInt8_of_ascii ascii, toNat_toUInt8_of_ascii otherAscii] at codes
  exact Char.toNat_inj.mp codes

theorem exists_byte_beyond_ascii (beyond : 0x80 ≤ c.toNat) :
    ∃ byte ∈ String.utf8EncodeChar c, 0x80 ≤ byte := by
  have lead (code high : Nat) (above : 0x80 ≤ high) (small : code + high < 0x100) :
      (0x80 : UInt8) ≤ UInt8.ofNat (code + high) := by
    rw [UInt8.le_iff_toNat_le, UInt8.toNat_ofNat_of_lt' small]
    exact Nat.le_trans above (Nat.le_add_left high code)
  have long : ¬c.val.toNat ≤ 0x7F := Nat.not_le_of_lt beyond
  rw [String.utf8EncodeChar]
  simp only [long, if_false]
  split
  · exact ⟨_, List.mem_cons_self, lead _ _ (by decide) (by omega)⟩
  · split
    · exact ⟨_, List.mem_cons_self, lead _ _ (by decide) (by omega)⟩
    · exact ⟨_, List.mem_cons_self, lead _ _ (by decide) (by omega)⟩

theorem isAscii_append {before after : List Char} :
    IsAscii (before ++ after) ↔ IsAscii before ∧ IsAscii after := by
  simp [IsAscii, or_imp, forall_and]

theorem isAscii_cons {rest : List Char} :
    IsAscii (c :: rest) ↔ c.toNat < 0x80 ∧ IsAscii rest :=
  List.forall_mem_cons

theorem isAscii_of_utf8 (bytes : ∀ byte ∈ utf8 text, byte < 0x80) : IsAscii text := by
  intro c member
  refine Nat.lt_of_not_le fun beyond => ?_
  obtain ⟨byte, inChar, high⟩ := exists_byte_beyond_ascii beyond
  have low := bytes byte (List.mem_flatMap.mpr ⟨c, member, inChar⟩)
  exact absurd low (UInt8.not_lt.mpr high)

theorem utf8_of_ascii (ascii : IsAscii text) : utf8 text = text.map Char.toUInt8 := by
  induction text with
  | nil => rfl
  | cons c rest restIH =>
      obtain ⟨cAscii, restAscii⟩ := isAscii_cons.mp ascii
      rw [List.map_cons, ← restIH restAscii, utf8, List.flatMap_cons,
        utf8EncodeChar_of_ascii cAscii]
      rfl

theorem mem_utf8_of_ascii (ascii : IsAscii text) {byte : UInt8} :
    byte ∈ utf8 text ↔ ∃ c ∈ text, c.toUInt8 = byte := by
  rw [utf8_of_ascii ascii, List.mem_map]

theorem toUInt8_mem_utf8_iff (ascii : IsAscii text) (cAscii : c.toNat < 0x80) :
    c.toUInt8 ∈ utf8 text ↔ c ∈ text := by
  rw [mem_utf8_of_ascii ascii]
  constructor
  · rintro ⟨other, member, same⟩
    exact toUInt8_inj_of_ascii (ascii other member) cAscii same ▸ member
  · intro member
    exact ⟨c, member, rfl⟩

theorem splitWhere_utf8 (ascii : IsAscii text) {separator : Char}
    (separatorAscii : separator.toNat < 0x80) :
    splitWhere (· == separator.toUInt8) (utf8 text) =
      (splitWhere (· == separator) text).map utf8 := by
  have fresh : ∀ piece ∈ (splitWhere (· == separator) text).map utf8,
      separator.toUInt8 ∉ piece := by
    rw [List.forall_mem_map]
    intro piece among
    have inText : IsAscii piece := fun c inPiece =>
      ascii c (joinWith_splitWhere separator text ▸ mem_joinWith_of_mem _ among inPiece)
    rw [toUInt8_mem_utf8_iff inText separatorAscii]
    exact fun found => absurd (uncut_of_mem_splitWhere among separator found) (by simp)
  have given : (splitWhere (· == separator) text).map utf8 ≠ [] := by
    simpa using splitWhere_ne_nil _ text
  have bytes := utf8_joinWith [separator] (splitWhere (· == separator) text)
  have single : utf8 [separator] = [separator.toUInt8] :=
    utf8_of_ascii (isAscii_cons.mpr ⟨separatorAscii, by simp [IsAscii]⟩)
  rw [joinWith_splitWhere, single] at bytes
  rw [bytes, splitWhere_joinWith given fresh]

theorem exists_cut_of_utf8 (ascii : IsAscii text) {separator : Char}
    (separatorAscii : separator.toNat < 0x80) {before after : List UInt8}
    (cut : utf8 text = before ++ separator.toUInt8 :: after) :
    ∃ start rest, text = start ++ separator :: rest ∧ utf8 start = before ∧ utf8 rest = after := by
  rw [utf8_of_ascii ascii, List.map_eq_append_iff] at cut
  obtain ⟨start, behind, rfl, startIs, behindIs⟩ := cut
  obtain ⟨found, rest, rfl, same, restIs⟩ := List.map_eq_cons_iff.mp behindIs
  obtain ⟨startAscii, foundAscii, restAscii⟩ :=
    (isAscii_append.trans (and_congr_right' isAscii_cons)).mp ascii
  obtain rfl := toUInt8_inj_of_ascii foundAscii separatorAscii same
  exact ⟨start, rest, rfl, (utf8_of_ascii startAscii).trans startIs,
    (utf8_of_ascii restAscii).trans restIs⟩

end FieldCheck.Text
