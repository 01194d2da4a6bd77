import FieldCheck.Domain.Name
import FieldCheck.Rules.IpAddress
import FieldCheck.Web.Percent

namespace FieldCheck.Web

inductive Host where
  | v4 (number : Nat)
  | v6 (address : Rules.V6Address)
  | domain (labels : List (List Char))
  | named (text : List Char)

def isOctalDigit (c : Char) : Bool := '0' ≤ c && c ≤ '7'

/-- The mark of a hexadecimal numeral may stand alone, for zero. -/
def numeral? (text : List Char) : Option Nat :=
  match text with
  | [] => none
  | '0' :: 'x' :: digits | '0' :: 'X' :: digits => Text.valueOfHex? digits
  | '0' :: c :: rest =>
      if (c :: rest).all isOctalDigit then
        some ((c :: rest).foldl (fun value c => 8 * value + Text.digitValue c) 0)
      else none
  | _ => if text.all Text.isDigit then some (Text.valueOfDigits text) else none

/-- All labels but an empty one at the end. -/
def dropFinalEmpty (labels : List (List Char)) : List (List Char) :=
  if labels.getLast? == some [] then labels.dropLast else labels

/-- A name whose last label looks like a number is not the name of a domain. -/
def endsInNumber (labels : List (List Char)) : Bool :=
  match labels with
  | [[]] => false
  | _ =>
      (dropFinalEmpty labels).getLast?.any fun last =>
        Text.allDigits last || (numeral? last).isSome

/-- `count` bytes are still to be filled. -/
def fillBytes? (number count : Nat) : List Nat → Option Nat
  | [] => none
  | [last] => if last < Nat.pow 256 count then some (number * Nat.pow 256 count + last) else none
  | byte :: rest =>
      if byte < 256 && count ≠ 0 then fillBytes? (number * 256 + byte) (count - 1) rest
      else none

def looseV4? (labels : List (List Char)) : Option Nat :=
  let numerals := dropFinalEmpty labels
  if 4 < numerals.length then none else (numerals.mapM numeral?).bind (fillBytes? 0 4)

/-- The text between brackets, if the brackets are the first and the last character. -/
def bracketed? (text : List Char) : Option (List Char) :=
  if text.getLast? == some ']' then some text.dropLast else none

def readV6? (afterBracket : List Char) : Option Host :=
  ((bracketed? afterBracket).bind Rules.V6Address.read?).map .v6

/-- A host under one of the schemes whose hosts are on the internet. -/
def Host.read? (text : List Char) : Option Host :=
  match text with
  | '[' :: rest => readV6? rest
  | _ => do
      let labels ← Domain.labels? (← decodePercent? text)
      if labels == [[]] then none
      else if endsInNumber labels then (looseV4? labels).map .v4
      else some (.domain labels)

/-- Characters that no host may hold under any scheme. -/
def isForbidden (c : Char) : Bool :=
  "\x00\t\n\r #/:<>?@[\\]^|".toList.contains c

/-- A host under any other scheme. -/
def Host.readNamed? (text : List Char) : Option Host :=
  match text with
  | '[' :: rest => readV6? rest
  | _ => if text.isEmpty || text.any isForbidden then none else some (.named text)

end FieldCheck.Web
