import FieldCheck.Text.CodeRange
import FieldCheck.Text.Canonical.Pairs
import FieldCheck.Text.Canonical.Ranks
import FieldCheck.Text.Canonical.Singles

namespace FieldCheck.Text

/-! Canonical equivalence: a letter with its marks can be one character or several.

`canonical` gives the composed form of a text, the same for all equivalent texts. It
takes all characters apart, puts marks in order, and puts together what can be.
-/

/-- The combining class of a mark, zero for every other character. -/
def combiningClass (c : Char) : Nat :=
  (CodeTable.get? combiningClasses c.toNat).getD 0

namespace Hangul

def firstSyllable : Nat := 0xAC00
def firstLead : Nat := 0x1100
def firstVowel : Nat := 0x1161

/-- The code point before the first trailing consonant. -/
def noTrail : Nat := 0x11A7

def leads : Nat := 19
def vowels : Nat := 21

/-- Counts the lack of a trailing consonant. -/
def trails : Nat := 28

def isSyllable (code : Nat) : Bool :=
  firstSyllable ≤ code && code < firstSyllable + leads * vowels * trails

def split (code : Nat) : List Nat :=
  let index := code - firstSyllable
  let start := [firstLead + index / (vowels * trails), firstVowel + index / trails % vowels]
  if index % trails = 0 then start else start ++ [noTrail + index % trails]

/-- A lead and a vowel, or a syllable without a trailing consonant and such a
consonant. -/
def join? (first second : Nat) : Option Nat :=
  if firstLead ≤ first ∧ first < firstLead + leads ∧ firstVowel ≤ second ∧
      second < firstVowel + vowels then
    some (firstSyllable + ((first - firstLead) * vowels + (second - firstVowel)) * trails)
  else if isSyllable first ∧ (first - firstSyllable) % trails = 0 ∧ noTrail < second ∧
      second < noTrail + trails then
    some (first + (second - noTrail))
  else none

end Hangul

/-- Takes a code point apart once. -/
def split? (code : Nat) : Option (List Nat) :=
  match composedPairs.find? (·.whole == code) with
  | some pair => some [pair.first, pair.second]
  | none =>
      match separatePairs.find? (·.whole == code) with
      | some pair => some [pair.first, pair.second]
      | none =>
          match canonicalSingles.lookup code with
          | some other => some [other]
          | none => (supplementSingles.lookup code).map fun other => [other]

/-- Takes a code point apart, then its parts, and so on, `steps` times in all. -/
def decomposeCode : Nat → Nat → List Nat
  | 0, code => [code]
  | steps + 1, code =>
      if Hangul.isSyllable code then Hangul.split code
      else
        match split? code with
        | some parts => parts.flatMap (decomposeCode steps)
        | none => [code]

/-- No character has parts of parts of parts that can be taken apart again. -/
def decompose (c : Char) : List Char :=
  if c.toNat < 0x80 then [c] else (decomposeCode 3 c.toNat).map Char.ofNat

/-- Puts a character in front of an ordered text. A mark moves behind the marks of
lower classes that follow. -/
def placeMark (c : Char) : List Char → List Char
  | [] => [c]
  | next :: rest =>
      if combiningClass next ≠ 0 ∧ combiningClass next < combiningClass c then
        next :: placeMark c rest
      else c :: next :: rest

def orderMarks (text : List Char) : List Char :=
  text.foldr placeMark []

def joinCodes? (first second : Nat) : Option Nat :=
  match Hangul.join? first second with
  | some whole => some whole
  | none =>
      (composedPairs.find? fun pair => pair.first == first && pair.second == second).map
        CodePair.whole

def join? (first second : Char) : Option Char :=
  (joinCodes? first.toNat second.toNat).map Char.ofNat

/-- Whether the marks between a character and the next one (nearest first) keep the
two apart: the last of them is not of a lower class. -/
def keepsApart (marks : List Char) (next : Char) : Bool :=
  match marks with
  | [] => false
  | nearest :: _ => combiningClass next ≤ combiningClass nearest

/-- Composes what follows `base`. The marks between, nearest first, did not join it. -/
def composeAfter (base : Char) (marks : List Char) : List Char → List Char
  | [] => base :: marks.reverse
  | next :: rest =>
      match if keepsApart marks next then none else join? base next with
      | some whole => composeAfter whole marks rest
      | none =>
          if combiningClass next = 0 then
            base :: marks.reverse ++ composeAfter next [] rest
          else composeAfter base (next :: marks) rest

/-- Marks at the very start have nothing to join. -/
def compose : List Char → List Char
  | [] => []
  | c :: rest =>
      if combiningClass c = 0 then composeAfter c [] rest else c :: compose rest

def canonical (text : List Char) : List Char :=
  compose (orderMarks (text.flatMap decompose))

end FieldCheck.Text
