import FieldCheck.Text.Ascii
import FieldCheck.Text.Numeral
import FieldCheck.Text.Split
import FieldCheck.Web.Host

namespace FieldCheck.Web

/-! Web addresses, read as browsers read them: generously about slashes, blanks around
the text and line breaks in it, strictly about the host.

Only the way to the host is read. Nothing that follows host and port can be wrong.
-/

/-- What a scheme says about the text after it. -/
inductive Scheme where
  | internet
  | file
  | other
deriving DecidableEq

namespace Scheme

def ofName (name : List Char) : Scheme :=
  match String.ofList (name.map Text.asciiLower) with
  | "http" | "https" | "ws" | "wss" | "ftp" => .internet
  | "file" => .file
  | _ => .other

/-- A backslash counts as a slash under all but other schemes. -/
def isSlash (scheme : Scheme) (c : Char) : Bool :=
  c == '/' || (scheme != .other && c == '\\')

/-- The characters before which the host and all that goes with it end. -/
def endsAuthority (scheme : Scheme) (c : Char) : Bool :=
  scheme.isSlash c || c == '?' || c == '#'

end Scheme

/-- Controls and spaces are dropped at either end. -/
def isEdge (c : Char) : Bool := c.toNat ≤ 0x20

/-- Tabs and line breaks are dropped everywhere. -/
def isBreak (c : Char) : Bool := c == '\t' || c == '\n' || c == '\r'

def clean (text : List Char) : List Char :=
  (((text.dropWhile isEdge).reverse.dropWhile isEdge).reverse).filter (!isBreak ·)

def isSchemeCharacter (c : Char) : Bool :=
  Text.isAsciiLetter c || Text.isDigit c || c == '+' || c == '-' || c == '.'

/-- A scheme, which starts with a letter, and the text after its colon. -/
def splitScheme? (text : List Char) : Option (Scheme × List Char) :=
  match Text.splitOnce ':' text with
  | some (name, rest) =>
      if name.head?.any Text.isAsciiLetter && name.all isSchemeCharacter then
        some (.ofName name, rest)
      else none
  | none => none

/-- What follows the last at sign, or the whole text. -/
def dropUser (authority : List Char) : List Char :=
  match Text.splitLast '@' authority with
  | some (_, host) => host
  | none => authority

/-- Cuts at the first colon outside brackets. -/
def splitPort (bracketed : Bool) : List Char → List Char × Option (List Char)
  | [] => ([], none)
  | c :: rest =>
      if c = ':' ∧ !bracketed then ([], some rest)
      else
        let (host, port) := splitPort (c == '[' || (bracketed && c != ']')) rest
        (c :: host, port)

def portLimit : Nat := 65536

/-- Digits, or none at all. A backslash ends the port under every scheme. -/
def isPort (text : List Char) : Bool :=
  let digits := text.takeWhile (· != '\\')
  digits.all Text.isDigit && Text.valueOfDigits digits < portLimit

/-- Reads host and port. An empty host is none. -/
def hostAndPort? (scheme : Scheme) (text : List Char) : Option Host :=
  let (host, port) := splitPort false text
  if host.isEmpty || !port.all isPort then none
  else if scheme = .other then Host.readNamed? host
  else Host.read? host

def authority? (scheme : Scheme) (text : List Char) : Option Host :=
  hostAndPort? scheme (dropUser (text.takeWhile (!scheme.endsAuthority ·)))

/-- A letter and a colon, or a bar in place of the colon. -/
def isDrive (text : List Char) : Bool :=
  match text with
  | [letter, mark] => Text.isAsciiLetter letter && (mark == ':' || mark == '|')
  | _ => false

/-- A drive with more text right after its colon. -/
def startsWithDrive (text : List Char) : Bool :=
  match text with
  | letter :: ':' :: _ :: _ => Text.isAsciiLetter letter
  | _ => false

/-- Reads a dot, or its written form, off a step. -/
def dropDot? (step : List Char) : Option (List Char) :=
  match step with
  | '.' :: rest | '%' :: '2' :: 'e' :: rest | '%' :: '2' :: 'E' :: rest => some rest
  | _ => none

/-- The step that stays where it is. -/
def isHere (step : List Char) : Bool :=
  dropDot? step == some []

/-- The step that goes back. -/
def isParent (step : List Char) : Bool :=
  (dropDot? step).any isHere

/-- Whether the path leaves the host in its place, from a point that is `depth` steps
down. A drive is never gone back behind, so after one the start is out of reach. -/
def keepsHost (depth : Nat) : List (List Char) → Bool
  | [] => true
  | step :: rest =>
      if isParent step then keepsHost (depth - 1) rest
      else if isHere step then keepsHost depth rest
      else if depth = 0 then
        if isDrive step then false
        else startsWithDrive step || keepsHost 1 rest
      else isDrive step || keepsHost (depth + 1) rest

/-- The steps of a path that starts with a slash. -/
def steps (path : List Char) : List (List Char) :=
  Text.splitWhere Scheme.file.isSlash (path.takeWhile fun c => c != '?' && c != '#').tail

/-- This machine. It is the host of every file that names none. -/
def localHost : List (List Char) := ["localhost".toList]

def fileHost? (text : List Char) : Option Host :=
  let name := text.takeWhile (!Scheme.file.endsAuthority ·)
  if name.isEmpty || isDrive name then none
  else
    match Host.read? name with
    | some (.domain labels) =>
        if labels == localHost then none
        else if keepsHost 0 (steps (text.drop name.length)) then some (.domain labels)
        else none
    | some host => if keepsHost 0 (steps (text.drop name.length)) then some host else none
    | none => none

def dropSlashes? (scheme : Scheme) (text : List Char) : Option (List Char) :=
  match text with
  | first :: second :: rest =>
      if scheme.isSlash first && scheme.isSlash second then some rest else none
  | _ => none

/-- Internet schemes do not count slashes, all others need two in front of a host. -/
def hostAfter? (scheme : Scheme) (text : List Char) : Option Host :=
  match scheme with
  | .internet => authority? scheme (text.dropWhile scheme.isSlash)
  | .file => (dropSlashes? scheme text).bind fileHost?
  | .other => (dropSlashes? scheme text).bind (authority? scheme)

/-- The host of a web address that has one. -/
def host? (text : List Char) : Option Host :=
  (splitScheme? (clean text)).bind fun (scheme, rest) => hostAfter? scheme rest

end FieldCheck.Web
