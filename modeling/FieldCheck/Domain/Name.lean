import FieldCheck.Domain.Direction
import FieldCheck.Domain.Joining
import FieldCheck.Domain.Mapping
import FieldCheck.Domain.Punycode
import FieldCheck.Text.Ascii
import FieldCheck.Text.Category.Mark

namespace FieldCheck.Domain

/-- Characters of ASCII that have a meaning in addresses, and those that cannot be
seen. -/
def isReserved (c : Char) : Bool :=
  c.toNat ≤ 0x20 || c.toNat == 0x7F || "%#/:<>?@[\\]^|".toList.contains c

/-- The longest form in ASCII that is decoded. -/
def encodedLimit : Nat := 2000

/-- The longest label outside ASCII. -/
def labelLimit : Nat := 1000

/-- Marks a label that is written in ASCII but stands for another. -/
def encodedMark : List Char := ['x', 'n', '-', '-']

/-- The label that a form in ASCII stands for. It has to be mapped already, so that no
two forms stand for the same label. -/
def decodeLabel? (encoded : List Char) : Option (List Char) :=
  if encoded.isEmpty || encoded.getLast? == some '-' || encodedLimit < encoded.length ||
      !encoded.all Text.isAscii then none
  else
    match Punycode.decode? encoded with
    | some label => if isMapped label then some label else none
    | none => none

def expand? (label : List Char) : Option (List Char) :=
  if encodedMark.isPrefixOf label then decodeLabel? (label.drop encodedMark.length)
  else some label

/-- A label does not start with a mark, its joiners have their place, and it is not
overlong. -/
def isLabel (label : List Char) : Bool :=
  !(label.head?.any fun c => Text.markRanges.contains c.toNat) &&
    joinersFit [] label && (label.all Text.isAscii || label.length ≤ labelLimit)

def labels? (text : List Char) : Option (List (List Char)) := do
  let mapped ← mapText? text
  if mapped.any isReserved then none
  else
    let labels ← (Text.splitWhere (· == '.') mapped).mapM expand?
    if labels.all isLabel && orderIsApparent labels then some labels else none

end FieldCheck.Domain
