import FieldCheck.Text.Hexadecimal
import FieldCheck.Text.Numeral
import FieldCheck.Text.Split

namespace FieldCheck.Rules

/-- Four octets, the first one leading. -/
structure V4Address where
  a : UInt8
  b : UInt8
  c : UInt8
  d : UInt8
deriving DecidableEq

/-- Eight groups of sixteen bits, the first one leading. -/
structure V6Address where
  a : UInt16
  b : UInt16
  c : UInt16
  d : UInt16
  e : UInt16
  f : UInt16
  g : UInt16
  h : UInt16
deriving DecidableEq

namespace V4Address

def number (address : V4Address) : Nat :=
  ((address.a.toNat * 256 + address.b.toNat) * 256 + address.c.toNat) * 256 +
    address.d.toNat

/-- One to three digits without a leading zero, up to 255. -/
def octet? (text : List Char) : Option UInt8 :=
  if Text.allDigits text && text.length ≤ 3 && (text.length == 1 || text.head? != some '0') then
    let value := Text.valueOfDigits text
    if value < 256 then some (UInt8.ofNat value) else none
  else none

/-- Four octets joined by dots. -/
def read? (text : List Char) : Option V4Address :=
  match (Text.splitWhere (· == '.') text).map octet? with
  | [some a, some b, some c, some d] => some ⟨a, b, c, d⟩
  | _ => none

/-- This network, loopback, link-local, and everything from 240 up. -/
def isReserved (address : V4Address) : Bool :=
  address.a == 0 || address.a == 127 || (address.a == 169 && address.b == 254) ||
    240 ≤ address.a

def isPrivate (address : V4Address) : Bool :=
  address.a == 10 || (address.a == 172 && 16 ≤ address.b && address.b ≤ 31) ||
    (address.a == 192 && address.b == 168)

end V4Address

namespace V6Address

def number (address : V6Address) : Nat :=
  [address.a, address.b, address.c, address.d, address.e, address.f, address.g,
    address.h].foldl (fun value group => value * 65536 + group.toNat) 0

def ofGroups? : List UInt16 → Option V6Address
  | [a, b, c, d, e, f, g, h] => some ⟨a, b, c, d, e, f, g, h⟩
  | _ => none

/-- One to four hexadecimal digits. -/
def group? (text : List Char) : Option UInt16 :=
  if text.isEmpty || 4 < text.length then none
  else (Text.valueOfHex? text).map UInt16.ofNat

/-- The two groups that an address of the older family fills. -/
def ofV4 (address : V4Address) : List UInt16 :=
  [UInt16.ofNat (address.a.toNat * 256 + address.b.toNat),
    UInt16.ofNat (address.c.toNat * 256 + address.d.toNat)]

/-- Groups joined by colons. The last one may be written as an address of the older
family where `tail` allows it. -/
def groups? (tail : Bool) : List (List Char) → Option (List UInt16)
  | [] => some []
  | [last] =>
      match group? last with
      | some group => some [group]
      | none => if tail then (V4Address.read? last).map ofV4 else none
  | first :: rest =>
      match group? first, groups? tail rest with
      | some group, some groups => some (group :: groups)
      | _, _ => none

/-- The groups of one side of a double colon, which may be empty. -/
def side? (tail : Bool) (text : List Char) : Option (List UInt16) :=
  if text.isEmpty then some [] else groups? tail (Text.splitWhere (· == ':') text)

/-- Cuts at the first double colon. -/
def splitDouble : List Char → Option (List Char × List Char)
  | ':' :: ':' :: rest => some ([], rest)
  | c :: rest => (splitDouble rest).map fun (before, after) => (c :: before, after)
  | [] => none

/-- All eight groups, or a double colon in place of one or more zero groups. -/
def read? (text : List Char) : Option V6Address :=
  match splitDouble text with
  | none => (groups? true (Text.splitWhere (· == ':') text)).bind ofGroups?
  | some (before, after) =>
      match side? false before, side? true after with
      | some head, some tail =>
          let given := head.length + tail.length
          if given ≤ 7 then ofGroups? (head ++ List.replicate (8 - given) 0 ++ tail) else none
      | _, _ => none

/-- The unspecified address, loopback, addresses of the older family, and link-local
ones. -/
def isReserved (address : V6Address) : Bool :=
  let upper := [address.a, address.b, address.c, address.d, address.e]
  (upper.all (· == 0) && address.f == 0 && address.g == 0 &&
      (address.h == 0 || address.h == 1)) ||
    (upper.all (· == 0) && address.f == 0xFFFF) ||
    address.a.toNat >>> 6 == 0xFE80 >>> 6

def isPrivate (address : V6Address) : Bool :=
  address.a.toNat >>> 9 == 0xFC00 >>> 9

end V6Address

structure IpOptions where
  allowV6 : Bool
  allowPrivate : Bool
deriving DecidableEq

def ip (text : List Char) (options : IpOptions) : Bool :=
  match V4Address.read? text with
  | some address => !address.isReserved && (options.allowPrivate || !address.isPrivate)
  | none =>
      match V6Address.read? text with
      | some address =>
          options.allowV6 && !address.isReserved && (options.allowPrivate || !address.isPrivate)
      | none => false

end FieldCheck.Rules
