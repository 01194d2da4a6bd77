import FieldCheck.Text.Utf8

namespace FieldCheck.Rules

/-! Internet message addresses in their standard form: words joined by dots, an at
sign, and sub-domains joined by dots. A word is an atom or a quoted string, a sub-domain
an atom or a bracketed literal.

The reader is a finite automaton over the bytes of the text. Its places say what was
read last, so a byte alone decides where to go next.
-/

namespace Mailbox

/-- What the reader has just read. `fault` is never left. -/
inductive Place where
  | wordStart
  | wordAtom
  | quoted
  | quotedPair
  | quotedEnd
  | domainStart
  | domainAtom
  | literal
  | literalPair
  | literalEnd
  | fault
deriving DecidableEq

def isAscii (byte : UInt8) : Bool := byte < 0x80

/-- The bytes with a meaning of their own. -/
def specials : List UInt8 := (Text.utf8 "()<>@,;:\\\".[]".toList)

/-- Neither a control, a space nor a special. -/
def isAtomByte (byte : UInt8) : Bool :=
  0x20 < byte && byte < 0x7F && !specials.contains byte

/-- A byte that stands for itself between quotation marks. -/
def isQuotedByte (byte : UInt8) : Bool :=
  isAscii byte && byte != 0x0D && byte != 0x22 && byte != 0x5C

/-- A byte that stands for itself between brackets. -/
def isLiteralByte (byte : UInt8) : Bool :=
  isAscii byte && byte != 0x0D && byte != 0x5B && byte != 0x5C && byte != 0x5D

/-- After a whole word: a dot and the next word, or the at sign. -/
def afterWord (byte : UInt8) : Place :=
  if byte = 0x2E then .wordStart else if byte = 0x40 then .domainStart else .fault

/-- After a whole sub-domain: a dot and the next one. -/
def afterDomain (byte : UInt8) : Place :=
  if byte = 0x2E then .domainStart else .fault

def step (place : Place) (byte : UInt8) : Place :=
  match place with
  | .wordStart =>
      if byte = 0x22 then .quoted else if isAtomByte byte then .wordAtom else .fault
  | .wordAtom => if isAtomByte byte then .wordAtom else afterWord byte
  | .quoted =>
      if byte = 0x22 then .quotedEnd
      else if byte = 0x5C then .quotedPair
      else if isQuotedByte byte then .quoted
      else .fault
  | .quotedPair => if isAscii byte then .quoted else .fault
  | .quotedEnd => afterWord byte
  | .domainStart =>
      if byte = 0x5B then .literal else if isAtomByte byte then .domainAtom else .fault
  | .domainAtom => if isAtomByte byte then .domainAtom else afterDomain byte
  | .literal =>
      if byte = 0x5D then .literalEnd
      else if byte = 0x5C then .literalPair
      else if isLiteralByte byte then .literal
      else .fault
  | .literalPair => if isAscii byte then .literal else .fault
  | .literalEnd => afterDomain byte
  | .fault => .fault

/-- The address may end after a sub-domain. -/
def accepting : Place → Bool
  | .domainAtom | .literalEnd => true
  | _ => false

def readFrom (place : Place) (bytes : List UInt8) : Bool :=
  accepting (bytes.foldl step place)

end Mailbox

def emailRfc (text : List Char) : Bool :=
  Mailbox.readFrom .wordStart (Text.utf8 text)

end FieldCheck.Rules
