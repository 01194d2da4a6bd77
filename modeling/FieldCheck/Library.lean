import FieldCheck.Filters
import FieldCheck.Rules.CharSet
import FieldCheck.Rules.CharacterClass
import FieldCheck.Rules.Date
import FieldCheck.Rules.Email
import FieldCheck.Rules.IpAddress
import FieldCheck.Rules.Length
import FieldCheck.Rules.Mailbox
import FieldCheck.Rules.Numeral
import FieldCheck.Rules.Phone
import FieldCheck.Rules.Presence
import FieldCheck.Rules.WebAddress

namespace FieldCheck.Library

def rule (name : String) (contract : Contract) (check : Check) : Rule :=
  ⟨name, contract, none, .library, check⟩

/-- A rule that judges the text of a value under its arguments. -/
def textRule (name : String) (contract : Contract)
    (judge : List Char → List String → Bool) : Rule :=
  rule name contract fun value arguments _ => .of (judge value.toText.toList arguments)

def plainRule (name : String) (judge : List Char → Bool) : Rule :=
  textRule name .nothing fun text _ => judge text

/-- The flag among the arguments at a position, false if there is none. -/
def flag (arguments : List String) (index : Nat) : Bool :=
  (arguments[index]?.bind readFlag?).getD false

/-- A character class with a flag for the characters of every script. -/
def classRule (name : String) (judge : List Char → Bool → Bool) : Rule :=
  textRule name (.between 0 1 .flag) fun text arguments => judge text (flag arguments 0)

/-- The digit counts that a telephone number may have: those given, or the configured
ones. -/
def phoneLengths (config : Config) (arguments : List String) : List Nat :=
  if arguments.isEmpty then config.phoneLengths else arguments.filterMap readCount?

/-- Asks the resolver about the domain of an address. Without a resolver nothing speaks
against it. -/
def domainVerdict (text : List Char) (resolver : Option Resolver) : Verdict :=
  match resolver with
  | none => .of true
  | some knows =>
      let domain := String.ofList (Rules.domainOf text)
      ⟨knows domain, [domain]⟩

def rules : List Rule :=
  [rule "required" .nothing fun value _ _ => .of (Rules.required value),
    rule "matches" (.atLeast 1 .text) fun value arguments context =>
      .of (Rules.matchesFields value context.record arguments),
    rule "depends_on" (.atLeast 1 .text) fun _ arguments context =>
      .of (Rules.dependsOn context.record arguments),
    { rule "is_array" .nothing fun value _ _ => .of (Rules.isArray value) with
      shape := some .sequence },
    rule "length" (.between 1 2 .unsigned) fun value arguments _ =>
      .of (match Rules.LengthBounds.ofArguments? arguments with
        | some bounds => Rules.hasLength value bounds
        | none => false),
    plainRule "email" Rules.email,
    plainRule "email_rfc" Rules.emailRfc,
    rule "email_domain" .nothing fun value _ context =>
      domainVerdict value.toText.toList context.resolver,
    plainRule "url" Rules.webAddress,
    textRule "ip" (.between 0 2 .flag) fun text arguments =>
      Rules.ip text ⟨flag arguments 0, flag arguments 1⟩,
    rule "phone" (.atLeast 0 .unsigned) fun value arguments context =>
      .of (Rules.phone value.toText.toList (phoneLengths context.config arguments)),
    plainRule "date" Rules.date,
    classRule "alpha" Rules.alpha,
    classRule "alpha_numeric" Rules.alphaNumeric,
    classRule "alpha_dash" Rules.alphaDash,
    classRule "digit" Rules.digit,
    rule "numeric" .nothing fun value _ context =>
      .of (Rules.numeric value.toText.toList context.config.decimalSeparator),
    plainRule "standard_text" Rules.standardText,
    textRule "decimal" (.between 0 2 .unsigned) fun text arguments =>
      Rules.decimal text (.ofArguments arguments),
    textRule "chars" (.atLeast 1 .text) fun text arguments =>
      Rules.chars text (.ofArguments arguments)]

def filters : List Filter :=
  [⟨"trim", .library, Filters.trim⟩, ⟨"ltrim", .library, Filters.trimStart⟩,
    ⟨"rtrim", .library, Filters.trimEnd⟩, ⟨"lowercase", .library, Filters.lowerCase⟩,
    ⟨"uppercase", .library, Filters.upperCase⟩, ⟨"ucfirst", .library, Filters.capitalize⟩,
    ⟨"collapse_whitespace", .library, Filters.collapseBlanks⟩]

/-- A field that people leave empty and programs fill in: any value but a blank one is
an error. -/
def honeypot : Callback :=
  ⟨"honeypot", .library, fun record _ field =>
    if (record.value field).isBlank then [] else [(field, "invalid")]⟩

def callbacks : List Callback := [honeypot]

end FieldCheck.Library
