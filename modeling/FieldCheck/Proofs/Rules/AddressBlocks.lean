import FieldCheck.Proofs.Rules.AddressText

namespace FieldCheck.Rules

/-! The blocks of internet addresses that are turned down.

An address is judged by its octets or groups. As numbers, the addresses that are turned down
are those of a few blocks, each given by a number and how many of its leading bits count. So
all spellings of an address get one verdict, and a verdict in favour stands when more is
allowed.
-/

/-- The number agrees with that of some block in as many of the `width` bits as count. -/
def Within (width : Nat) (blocks : List (Nat × Nat)) (number : Nat) : Prop :=
  ∃ block ∈ blocks, number >>> (width - block.2) = block.1 >>> (width - block.2)

theorem not_within_nil {width number : Nat} : ¬Within width [] number := by
  rintro ⟨block, member, -⟩
  cases member

theorem within_cons_iff {width number base length : Nat} {rest : List (Nat × Nat)} :
    Within width ((base, length) :: rest) number ↔
      number / Nat.pow 2 (width - length) = base / Nat.pow 2 (width - length) ∨
        Within width rest number := by
  rw [Within, List.exists_mem_cons_iff, Nat.shiftRight_eq_div_pow, Nat.shiftRight_eq_div_pow]
  rfl

namespace V4Address

variable {address : V4Address}

/-- This network, loopback, link-local, and all from 240 up. -/
def reservedBlocks : List (Nat × Nat) :=
  [(number ⟨0, 0, 0, 0⟩, 8), (number ⟨127, 0, 0, 0⟩, 8), (number ⟨169, 254, 0, 0⟩, 16),
    (number ⟨240, 0, 0, 0⟩, 4)]

def privateBlocks : List (Nat × Nat) :=
  [(number ⟨10, 0, 0, 0⟩, 8), (number ⟨172, 16, 0, 0⟩, 12), (number ⟨192, 168, 0, 0⟩, 16)]

theorem octets_lt (address : V4Address) : address.a.toNat < 256 ∧ address.b.toNat < 256 ∧
    address.c.toNat < 256 ∧ address.d.toNat < 256 :=
  ⟨address.a.toNat_lt, address.b.toNat_lt, address.c.toNat_lt, address.d.toNat_lt⟩

theorem isReserved_iff : address.isReserved = true ↔ Within 32 reservedBlocks address.number := by
  have bounds := address.octets_lt
  simp only [isReserved, Bool.or_eq_true, Bool.and_eq_true, beq_iff_eq, decide_eq_true_eq,
    ← UInt8.toNat_inj, UInt8.le_iff_toNat_le, UInt8.reduceToNat]
  simp only [reservedBlocks, within_cons_iff, not_within_nil, or_false, number, UInt8.reduceToNat,
    Nat.reduceSub, Nat.pow_eq, Nat.reducePow, Nat.reduceMul, Nat.reduceAdd, Nat.reduceDiv]
  omega

theorem isPrivate_iff : address.isPrivate = true ↔ Within 32 privateBlocks address.number := by
  have bounds := address.octets_lt
  simp only [isPrivate, Bool.or_eq_true, Bool.and_eq_true, beq_iff_eq, decide_eq_true_eq,
    ← UInt8.toNat_inj, UInt8.le_iff_toNat_le, UInt8.reduceToNat]
  simp only [privateBlocks, within_cons_iff, not_within_nil, or_false, number, UInt8.reduceToNat,
    Nat.reduceSub, Nat.pow_eq, Nat.reducePow, Nat.reduceMul, Nat.reduceAdd, Nat.reduceDiv]
  omega

/-- In no reserved block, and in a private one only where these are allowed. -/
structure IsOpen (allowPrivate : Bool) (address : V4Address) : Prop where
  free : ¬Within 32 reservedBlocks address.number
  reachable : allowPrivate = true ∨ ¬Within 32 privateBlocks address.number

theorem isOpen_iff {allowPrivate : Bool} : address.IsOpen allowPrivate ↔
    (!address.isReserved && (allowPrivate || !address.isPrivate)) = true := by
  simp only [Bool.and_eq_true, Bool.or_eq_true, Bool.not_eq_true', ← Bool.not_eq_true,
    isReserved_iff, isPrivate_iff]
  exact ⟨fun ⟨free, reachable⟩ => ⟨free, reachable⟩, fun ⟨free, reachable⟩ => ⟨free, reachable⟩⟩

end V4Address

namespace V6Address

variable {address : V6Address}

/-- The addresses of the older family in the newer one, and link-local. -/
def reservedBlocks : List (Nat × Nat) :=
  [(number ⟨0, 0, 0, 0, 0, 0xFFFF, 0, 0⟩, 96), (number ⟨0xFE80, 0, 0, 0, 0, 0, 0, 0⟩, 10)]

def privateBlocks : List (Nat × Nat) :=
  [(number ⟨0xFC00, 0, 0, 0, 0, 0, 0, 0⟩, 7)]

theorem groups_lt (address : V6Address) :
    (address.a.toNat < 65536 ∧ address.b.toNat < 65536 ∧ address.c.toNat < 65536 ∧
      address.d.toNat < 65536) ∧
    address.e.toNat < 65536 ∧ address.f.toNat < 65536 ∧ address.g.toNat < 65536 ∧
      address.h.toNat < 65536 :=
  ⟨⟨address.a.toNat_lt, address.b.toNat_lt, address.c.toNat_lt, address.d.toNat_lt⟩,
    address.e.toNat_lt, address.f.toNat_lt, address.g.toNat_lt, address.h.toNat_lt⟩

theorem isReserved_iff : address.isReserved = true ↔
    address.number = 0 ∨ address.number = 1 ∨ Within 128 reservedBlocks address.number := by
  have bounds := address.groups_lt
  simp only [isReserved, Bool.or_eq_true, Bool.and_eq_true, beq_iff_eq, List.all_cons, List.all_nil,
    ← UInt16.toNat_inj, UInt16.reduceToNat, Nat.shiftRight_eq_div_pow, and_true]
  simp only [reservedBlocks, within_cons_iff, not_within_nil, or_false, number, List.foldl_cons,
    List.foldl_nil, UInt16.reduceToNat, Nat.reduceSub, Nat.pow_eq, Nat.reducePow, Nat.reduceMul,
    Nat.reduceAdd, Nat.reduceDiv, Nat.zero_mul, Nat.zero_add]
  omega

theorem isPrivate_iff : address.isPrivate = true ↔ Within 128 privateBlocks address.number := by
  have bounds := address.groups_lt
  simp only [isPrivate, beq_iff_eq, Nat.shiftRight_eq_div_pow]
  simp only [privateBlocks, within_cons_iff, not_within_nil, or_false, number, List.foldl_cons,
    List.foldl_nil, UInt16.reduceToNat, Nat.reduceSub, Nat.pow_eq, Nat.reducePow, Nat.reduceMul,
    Nat.reduceAdd, Nat.reduceDiv, Nat.zero_mul, Nat.zero_add]
  omega

/-- Neither the unspecified address nor loopback, in no reserved block, and in a private one
only where these are allowed. -/
structure IsOpen (allowPrivate : Bool) (address : V6Address) : Prop where
  specified : address.number ≠ 0
  remote : address.number ≠ 1
  free : ¬Within 128 reservedBlocks address.number
  reachable : allowPrivate = true ∨ ¬Within 128 privateBlocks address.number

theorem isOpen_iff {allowPrivate : Bool} : address.IsOpen allowPrivate ↔
    (!address.isReserved && (allowPrivate || !address.isPrivate)) = true := by
  simp only [Bool.and_eq_true, Bool.or_eq_true, Bool.not_eq_true', ← Bool.not_eq_true,
    isReserved_iff, isPrivate_iff, not_or]
  constructor
  · rintro ⟨specified, remote, free, reachable⟩
    exact ⟨⟨specified, remote, free⟩, reachable⟩
  · rintro ⟨⟨specified, remote, free⟩, reachable⟩
    exact ⟨specified, remote, free, reachable⟩

end V6Address

variable {text : List Char} {options : IpOptions}

theorem ip_of_write (address : V4Address) :
    ip address.write options = true ↔ address.IsOpen options.allowPrivate := by
  rw [ip, V4Address.read?_eq_some_iff.mpr rfl, V4Address.isOpen_iff]

theorem read?_eq_none_of_denotes {address : V6Address} (denotes : V6Address.Denotes text address) :
    V4Address.read? text = none := by
  refine Option.eq_none_iff_forall_ne_some.mpr fun quad read => ?_
  obtain rfl := V4Address.read?_eq_some_iff.mp read
  rcases V4Address.mem_write denotes.colon_mem with dot | digit
  · exact absurd dot (by decide)
  · exact absurd digit (by decide)

theorem ip_of_denotes {address : V6Address} (denotes : V6Address.Denotes text address) :
    ip text options = true ↔ options.allowV6 = true ∧ address.IsOpen options.allowPrivate := by
  rw [ip, read?_eq_none_of_denotes denotes, V6Address.read?_of_denotes denotes, V6Address.isOpen_iff]
  simp only [Bool.and_eq_true, and_assoc]

theorem exists_address_of_ip (accepted : ip text options = true) :
    (∃ address : V4Address, text = address.write) ∨
      ∃ address, V6Address.Denotes text address := by
  unfold ip at accepted
  split at accepted
  · rename_i address read
    exact .inl ⟨address, V4Address.read?_eq_some_iff.mp read⟩
  · split at accepted
    · rename_i address read
      exact .inr ⟨address, V6Address.denotes_of_read? read⟩
    · cases accepted

theorem ip_iff_open : ip text options = true ↔
    (∃ address : V4Address, text = address.write ∧ address.IsOpen options.allowPrivate) ∨
      options.allowV6 = true ∧
        ∃ address, V6Address.Denotes text address ∧ address.IsOpen options.allowPrivate := by
  constructor
  · intro accepted
    rcases exists_address_of_ip accepted with ⟨address, rfl⟩ | ⟨address, denotes⟩
    · exact .inl ⟨address, rfl, (ip_of_write address).mp accepted⟩
    · obtain ⟨allowed, isOpen⟩ := (ip_of_denotes denotes).mp accepted
      exact .inr ⟨allowed, address, denotes, isOpen⟩
  · rintro (⟨address, rfl, isOpen⟩ | ⟨allowed, address, denotes, isOpen⟩)
    · exact (ip_of_write address).mpr isOpen
    · exact (ip_of_denotes denotes).mpr ⟨allowed, isOpen⟩

theorem ip_of_wider {wider : IpOptions} (accepted : ip text options = true)
    (v6 : options.allowV6 = true → wider.allowV6 = true)
    (privates : options.allowPrivate = true → wider.allowPrivate = true) :
    ip text wider = true := by
  rw [ip_iff_open] at accepted ⊢
  rcases accepted with ⟨address, written, free, reachable⟩ |
      ⟨allowed, address, denotes, specified, remote, free, reachable⟩
  · exact .inl ⟨address, written, free, reachable.imp_left privates⟩
  · exact .inr ⟨v6 allowed, address, denotes, specified, remote, free,
      reachable.imp_left privates⟩

/-- A text is accepted just when it spells an address outside the blocks that are turned down.
Allowing the newer family or private blocks turns no accepted text down, and the spellings of
one address are all accepted or all turned down. -/
theorem ip_goes_by_blocks (text : List Char) (options : IpOptions) :
    (ip text options = true ↔
      (∃ address : V4Address, text = address.write ∧ address.IsOpen options.allowPrivate) ∨
        options.allowV6 = true ∧
          ∃ address, V6Address.Denotes text address ∧ address.IsOpen options.allowPrivate) ∧
    (ip text options = true →
      ip text { options with allowV6 := true } = true ∧
        ip text { options with allowPrivate := true } = true) ∧
    ∀ address other, V6Address.Denotes text address → V6Address.Denotes other address →
      ip other options = ip text options := by
  refine ⟨ip_iff_open, fun accepted => ⟨?_, ?_⟩, fun address other denotes also => ?_⟩
  · exact ip_of_wider accepted (fun _ => rfl) id
  · exact ip_of_wider accepted id (fun _ => rfl)
  · exact Bool.eq_iff_iff.mpr ((ip_of_denotes also).trans (ip_of_denotes denotes).symm)

/-- Two spellings of one address, the longer one with its last groups as those of the older
family. -/
theorem both_spellings_are_accepted :
    let short := "2001:DB8::10".toList
    let long := "2001:db8:0:0:0:0:0.0.0.16".toList
    (V6Address.Denotes short ⟨0x2001, 0xDB8, 0, 0, 0, 0, 0, 0x10⟩ ∧
      V6Address.Denotes long ⟨0x2001, 0xDB8, 0, 0, 0, 0, 0, 0x10⟩) ∧
    ip short ⟨true, false⟩ = true ∧ ip short ⟨true, true⟩ = true ∧
      ip long ⟨true, false⟩ = true := by
  have short : V6Address.Denotes "2001:DB8::10".toList
      ⟨0x2001, 0xDB8, 0, 0, 0, 0, 0, 0x10⟩ :=
    V6Address.denotes_of_read? (by decide +kernel)
  have long : V6Address.Denotes "2001:db8:0:0:0:0:0.0.0.16".toList
      ⟨0x2001, 0xDB8, 0, 0, 0, 0, 0, 0x10⟩ :=
    V6Address.denotes_of_read? (by decide +kernel)
  have accepted : ip "2001:DB8::10".toList ⟨true, false⟩ = true := by decide +kernel
  obtain ⟨-, wider, spellings⟩ := ip_goes_by_blocks "2001:DB8::10".toList ⟨true, false⟩
  exact ⟨⟨short, long⟩, accepted, (wider accepted).2,
    (spellings _ _ short long).trans accepted⟩

end FieldCheck.Rules
