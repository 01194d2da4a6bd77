import FieldCheck.Library
import FieldCheck.Proofs.Rules.EverydayAddresses

namespace FieldCheck

open Text

namespace Rules

variable {text localPart domain before rest : List Char}

theorem domainOf_append (fresh : '@' ∉ before) (after : List Char) :
    domainOf (before ++ '@' :: after) = after := by
  rw [domainOf, splitOnce_of_not_mem fresh]

theorem domainOf_quoted (fresh : '@' ∉ before) (rest domain : List Char) :
    domainOf ((before ++ '@' :: rest) ++ '@' :: domain) = rest ++ '@' :: domain := by
  rw [List.append_assoc, List.cons_append, domainOf_append fresh]

theorem domainOf_eq_iff : domainOf (localPart ++ '@' :: domain) = domain ↔ '@' ∉ localPart := by
  constructor
  · intro asked quoted
    obtain ⟨before, rest, rfl, fresh⟩ := List.eq_append_cons_of_mem quoted
    rw [domainOf_quoted fresh] at asked
    have lengths := congrArg List.length asked
    rw [List.length_append, List.length_cons] at lengths
    omega
  · intro fresh
    exact domainOf_append fresh domain

/-- How a standard address is put together. -/
structure Mailbox.AddressParts (text localPart domain : List Char) : Prop where
  whole : text = localPart ++ '@' :: domain
  isLocal : Mailbox.IsLocalPart (utf8 localPart)
  isDomain : Mailbox.IsDomain (utf8 domain)

theorem Mailbox.exists_addressParts (accepted : emailRfc text = true) :
    ∃ localPart domain, Mailbox.AddressParts text localPart domain := by
  obtain ⟨start, behind, cut, isLocal, isDomain⟩ := Mailbox.readFrom_wordStart_iff.mp accepted
  have atAscii : '@'.toNat < 0x80 := by decide
  obtain ⟨localPart, domain, whole, rfl, rfl⟩ :=
    exists_cut_of_utf8 (isAscii_of_emailRfc accepted) atAscii cut
  exact ⟨localPart, domain, whole, isLocal, isDomain⟩

end Rules

namespace Library

open Rules

def asking (knows : Resolver) (domain : List Char) : Verdict :=
  ⟨knows (String.ofList domain), [String.ofList domain]⟩

theorem asking_inj {knows : Resolver} {domain other : List Char} :
    asking knows domain = asking knows other ↔ domain = other := by
  constructor
  · intro same
    exact String.ofList_injective (List.singleton_inj.mp (congrArg Verdict.asked same))
  · rintro rfl
    rfl

/-- Of an everyday address the rule asks about the domain with the port, and so about the
domain just when there is no port. Of a standard address it asks about the domain just when
no at sign is in the local part, and else about all that follows the first at sign. -/
theorem domainVerdict_asks (knows : Resolver) (text : List Char) :
    (email text = true →
      (∃ localPart domain port, AddressParts text localPart domain port) ∧
      ∀ localPart domain port, AddressParts text localPart domain port →
        domainVerdict text (some knows) = asking knows (domain ++ port) ∧
        (domainVerdict text (some knows) = asking knows domain ↔ port = [])) ∧
    (emailRfc text = true →
      (∃ localPart domain, Mailbox.AddressParts text localPart domain) ∧
      ∀ localPart domain, Mailbox.AddressParts text localPart domain →
        (domainVerdict text (some knows) = asking knows domain ↔ '@' ∉ localPart) ∧
        ∀ before rest, localPart = before ++ '@' :: rest → '@' ∉ before →
          domainVerdict text (some knows) = asking knows (rest ++ '@' :: domain)) := by
  have asked : domainVerdict text (some knows) = asking knows (domainOf text) := rfl
  rw [asked]
  constructor
  · intro accepted
    refine ⟨exists_addressParts accepted, ?_⟩
    rintro localPart domain port ⟨rfl, isLocal, -, -⟩
    rw [domainOf_append (at_not_mem_of_isLocalPart isLocal)]
    exact ⟨rfl, asking_inj.trans List.append_right_eq_self⟩
  · intro accepted
    refine ⟨Mailbox.exists_addressParts accepted, ?_⟩
    rintro localPart domain ⟨rfl, -, -⟩
    refine ⟨asking_inj.trans domainOf_eq_iff, ?_⟩
    rintro before rest rfl fresh
    rw [domainOf_quoted fresh]

/-- A resolver that knows the domain of two addresses is asked about a port in one, and
about the end of a quoted string in the other. -/
theorem asked_about_port_and_quoted_text :
    let knows : Resolver := fun domain => domain == "example.com"
    email "user@example.com:25".toList = true ∧
      domainVerdict "user@example.com:25".toList (some knows) = ⟨false, ["example.com:25"]⟩ ∧
      emailRfc "\"a@b\"@example.com".toList = true ∧
      domainVerdict "\"a@b\"@example.com".toList (some knows) =
        ⟨false, ["b\"@example.com"]⟩ ∧
      ¬∀ text localPart domain port, email text = true →
        AddressParts text localPart domain port →
        domainVerdict text (some knows) = asking knows domain := by
  refine ⟨by decide, by decide, by decide, by decide, fun always => ?_⟩
  have parts : AddressParts "user@example.com:25".toList "user".toList "example.com".toList
      ":25".toList :=
    ⟨by decide, isLocalPart_iff.mp (by decide), isDomain_iff.mp (by decide),
      isPort_iff.mp (by decide)⟩
  exact absurd (always _ _ _ _ (by decide) parts) (by decide)

end Library

end FieldCheck
