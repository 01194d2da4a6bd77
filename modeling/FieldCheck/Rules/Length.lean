import FieldCheck.Contract
import FieldCheck.Value.Basic

namespace FieldCheck.Rules

inductive LengthBounds where
  | exactly (count : Nat)
  | range (least most : Nat)
deriving DecidableEq

namespace LengthBounds

/-- One number, or the least and the greatest. More arguments than two are passed over,
and one that is no number leaves no bounds. -/
def ofArguments? : List String → Option LengthBounds
  | [] => none
  | [count] => (readCount? count).map .exactly
  | least :: most :: _ =>
      match readCount? least, readCount? most with
      | some least, some most => some (.range least most)
      | _, _ => none

def admits (bounds : LengthBounds) (count : Nat) : Bool :=
  match bounds with
  | .exactly wanted => count == wanted
  | .range least most => least ≤ count && count ≤ most

end LengthBounds

/-- Only a text has a length. -/
def hasLength (value : Value) (bounds : LengthBounds) : Bool :=
  match value.text? with
  | some text => bounds.admits text.toList.length
  | none => false

end FieldCheck.Rules
