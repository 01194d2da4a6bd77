import FieldCheck.Text.Ascii
import FieldCheck.Text.Blank
import FieldCheck.Text.Numeral

namespace FieldCheck

inductive ArgumentKind where
  | text
  | unsigned
  | flag
deriving DecidableEq, Repr

/-- Reads a natural number, blanks around it allowed. -/
def readCount? (argument : String) : Option Nat :=
  Text.readWord? (Text.trim argument.toList)

/-- Reads a yes or a no, in any case and with blanks around it. -/
def readFlag? (argument : String) : Option Bool :=
  match String.ofList ((Text.trim argument.toList).map Text.asciiLower) with
  | "true" | "1" | "yes" | "on" => some true
  | "false" | "0" | "no" | "off" => some false
  | _ => none

def ArgumentKind.admits (kind : ArgumentKind) (argument : String) : Bool :=
  match kind with
  | .text => true
  | .unsigned => (readCount? argument).isSome
  | .flag => (readFlag? argument).isSome

/-- How many arguments of which kind. Without `most` there is no upper bound. -/
structure Contract where
  least : Nat
  most : Option Nat
  kind : ArgumentKind
deriving DecidableEq

/-- Why a list of arguments breaks a contract. -/
inductive ArgumentFault where
  | wrongCount (contract : Contract) (given : Nat)
  | wrongKind (argument : String) (expected : ArgumentKind)
deriving DecidableEq

namespace Contract

def nothing : Contract := ⟨0, some 0, .text⟩

def between (least most : Nat) (kind : ArgumentKind) : Contract := ⟨least, some most, kind⟩

def atLeast (least : Nat) (kind : ArgumentKind) : Contract := ⟨least, none, kind⟩

def admitsCount (contract : Contract) (count : Nat) : Bool :=
  contract.least ≤ count &&
    match contract.most with
    | some most => count ≤ most
    | none => true

/-- The first fault of a list of arguments: a wrong count goes before a wrong kind. -/
def fault? (contract : Contract) (arguments : List String) : Option ArgumentFault :=
  if contract.admitsCount arguments.length then
    (arguments.find? fun argument => !contract.kind.admits argument).map
      (.wrongKind · contract.kind)
  else some (.wrongCount contract arguments.length)

def accepts (contract : Contract) (arguments : List String) : Bool :=
  (contract.fault? arguments).isNone

def expectation (contract : Contract) : String :=
  let least := contract.least
  match contract.most with
  | some most =>
      if most = 0 then "no arguments"
      else if most = least then s!"exactly {most} argument(s)"
      else s!"{least} to {most} arguments"
  | none => s!"at least {least} argument(s)"

end Contract

def ArgumentKind.name : ArgumentKind → String
  | .text => "Text"
  | .unsigned => "Unsigned"
  | .flag => "Flag"

def ArgumentFault.message : ArgumentFault → String
  | .wrongCount contract given =>
      let expectation := contract.expectation
      s!"expected {expectation}, got {given}"
  | .wrongKind argument expected =>
      let kind := expected.name
      s!"`{argument}` is not a valid {kind} argument"

end FieldCheck
