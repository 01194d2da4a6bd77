import FieldCheck.Text.Split

namespace FieldCheck.Domain

/-! Labels written in ASCII: the ASCII characters of a label, a hyphen, and where all
other characters go in between.

The second part is a sequence of numbers in base 36, least digit first. Each number
says how far to move on, counting positions in the text and then code points, until
the next character is put in. How many values of a digit end a number depends on its
place and on the sizes of the numbers before, through `bias`.
-/

namespace Punycode

/-- `start` is the position at the end of the last number, `index` what has been added
to it since. `midway` holds in the middle of a number. -/
structure Decoder where
  text : List Char
  code : Nat
  start : Nat
  index : Nat
  bias : Nat
  place : Nat
  weight : Nat
  midway : Bool

def Decoder.new (text : List Char) : Decoder := ⟨text, 0x80, 0, 0, 72, 36, 1, false⟩

/-- All counts stay under this. -/
def limit : Nat := Nat.pow 2 32

/-- Small letters are 0 to 25, and digits 26 to 35. -/
def digitValue? (c : Char) : Option Nat :=
  if 'a' ≤ c ∧ c ≤ 'z' then some (c.toNat - 97)
  else if '0' ≤ c ∧ c ≤ '9' then some (c.toNat - 48 + 26)
  else none

/-- A digit below the threshold of its place ends a number. -/
def threshold (place bias : Nat) : Nat :=
  if place ≤ bias then 1 else if bias + 26 ≤ place then 26 else place - bias

/-- Divides by 35 until at most 455 is left, and counts 36 for each time. -/
def scaleDown (delta places : Nat) : Nat × Nat :=
  if 455 < delta then scaleDown (delta / 35) (places + 36) else (delta, places)
termination_by delta
decreasing_by exact Nat.div_lt_self (by omega) (by omega)

/-- The bias after a number. The first one is taken to be larger than the others. -/
def adapt (delta size : Nat) (first : Bool) : Nat :=
  let halved := if first then delta / 700 else delta / 2
  let (rest, places) := scaleDown (halved + halved / size) 0
  places + 36 * rest / (rest + 38)

/-- Puts in the character at the end of a number. -/
def Decoder.insert? (decoder : Decoder) : Option Decoder :=
  let size := decoder.text.length + 1
  let code := decoder.code + decoder.index / size
  let position := decoder.index % size
  if code.isValidChar then
    some ⟨decoder.text.insertIdx position (Char.ofNat code), code, position + 1, position + 1,
      adapt (decoder.index - decoder.start) size (decoder.start == 0), 36, 1, false⟩
  else none

def Decoder.step? (decoder : Decoder) (c : Char) : Option Decoder :=
  match digitValue? c with
  | none => none
  | some digit =>
      let index := decoder.index + digit * decoder.weight
      let bound := threshold decoder.place decoder.bias
      let weight := decoder.weight * (36 - bound)
      if limit ≤ index then none
      else if digit < bound then { decoder with index }.insert?
      else if limit ≤ weight then none
      else some { decoder with index, weight, place := decoder.place + 36, midway := true }

/-- Cuts at the last hyphen, unless nothing stands in front of it. -/
def parts (text : List Char) : List Char × List Char :=
  match Text.splitLast '-' text with
  | some (base, rest) => if base.isEmpty then ([], text) else (base, rest)
  | none => ([], text)

def decode? (text : List Char) : Option (List Char) :=
  let (base, rest) := parts text
  match rest.foldlM Decoder.step? (Decoder.new base) with
  | some decoder => if decoder.midway then none else some decoder.text
  | none => none

end Punycode

end FieldCheck.Domain
