import FieldCheck.Binary64.Basic
import FieldCheck.Binary64.Shortest
import FieldCheck.Binary64.Text
import FieldCheck.Config
import FieldCheck.Contract
import FieldCheck.Data.OrderedMap
import FieldCheck.Date.Calendar
import FieldCheck.Date.Layout
import FieldCheck.Date.Names
import FieldCheck.Date.Timestamp
import FieldCheck.Description
import FieldCheck.Domain.Direction
import FieldCheck.Domain.Direction.Classes
import FieldCheck.Domain.Joining
import FieldCheck.Domain.Joining.Classes
import FieldCheck.Domain.Mapping
import FieldCheck.Domain.Mapping.Expansions
import FieldCheck.Domain.Mapping.Refused
import FieldCheck.Domain.Mapping.Shifts
import FieldCheck.Domain.Name
import FieldCheck.Domain.Punycode
import FieldCheck.Filters
import FieldCheck.Json.Basic
import FieldCheck.Json.Source
import FieldCheck.Library
import FieldCheck.Messages
import FieldCheck.Pipeline.Basic
import FieldCheck.Pipeline.Run
import FieldCheck.Proofs.Binary64.Integers
import FieldCheck.Proofs.Binary64.Nearest
import FieldCheck.Proofs.Binary64.PlainText
import FieldCheck.Proofs.Binary64.Rounding
import FieldCheck.Proofs.Binary64.ShortestDecimal
import FieldCheck.Proofs.Contract.RuleArguments
import FieldCheck.Proofs.Contract.Spelling
import FieldCheck.Proofs.Data.Collect
import FieldCheck.Proofs.Data.KeyOrder
import FieldCheck.Proofs.Date.Consumption
import FieldCheck.Proofs.Date.Figures
import FieldCheck.Proofs.Date.NumericLayouts
import FieldCheck.Proofs.Filters.Idempotence
import FieldCheck.Proofs.Filters.Trimming
import FieldCheck.Proofs.Json.Range
import FieldCheck.Proofs.Messages.Rendering
import FieldCheck.Proofs.Pipeline.ArrayFields
import FieldCheck.Proofs.Pipeline.CallbackStage
import FieldCheck.Proofs.Pipeline.ErrorsOfRun
import FieldCheck.Proofs.Pipeline.FilterOrder
import FieldCheck.Proofs.Pipeline.MoreRules
import FieldCheck.Proofs.Pipeline.RecordOfRun
import FieldCheck.Proofs.Pipeline.Registration
import FieldCheck.Proofs.Pipeline.RuleStage
import FieldCheck.Proofs.Pipeline.SecondRun
import FieldCheck.Proofs.Pipeline.TextFilters
import FieldCheck.Proofs.Pipeline.TextRules
import FieldCheck.Proofs.Pipeline.TwoRuns
import FieldCheck.Proofs.Pipeline.Visits
import FieldCheck.Proofs.RuleSpec.Arguments
import FieldCheck.Proofs.RuleSpec.Cuts
import FieldCheck.Proofs.RuleSpec.Expressible
import FieldCheck.Proofs.RuleSpec.Reading
import FieldCheck.Proofs.RuleSpec.RoundTrip
import FieldCheck.Proofs.Rules.AddressBlocks
import FieldCheck.Proofs.Rules.AddressText
import FieldCheck.Proofs.Rules.AskedDomain
import FieldCheck.Proofs.Rules.CharSetPieces
import FieldCheck.Proofs.Rules.CharSetScan
import FieldCheck.Proofs.Rules.CharacterModes
import FieldCheck.Proofs.Rules.EmailGrammar
import FieldCheck.Proofs.Rules.EverydayAddresses
import FieldCheck.Proofs.Rules.MailboxGrammar
import FieldCheck.Proofs.Rules.NumberValues
import FieldCheck.Proofs.Rules.NumeralGrammar
import FieldCheck.Proofs.Rules.NumericDates
import FieldCheck.Proofs.Rules.StandardText
import FieldCheck.Proofs.Text.Ascii
import FieldCheck.Proofs.Text.CaseMapping
import FieldCheck.Proofs.Text.CodeRanges
import FieldCheck.Proofs.Text.Numeral
import FieldCheck.Proofs.Text.Separators
import FieldCheck.Proofs.Text.Whitespace
import FieldCheck.Proofs.Validator.ConfiguredFields
import FieldCheck.Proofs.Validator.History
import FieldCheck.Proofs.Validator.Outcome
import FieldCheck.Proofs.Validator.OutcomeJson
import FieldCheck.Proofs.Validator.SafeRecord
import FieldCheck.Proofs.Value.FlatJson
import FieldCheck.Proofs.Value.Storable
import FieldCheck.Record
import FieldCheck.RegistrationError
import FieldCheck.Registry
import FieldCheck.Rule
import FieldCheck.RuleSpec
import FieldCheck.Rules.CharSet
import FieldCheck.Rules.CharacterClass
import FieldCheck.Rules.Date
import FieldCheck.Rules.Email
import FieldCheck.Rules.IpAddress
import FieldCheck.Rules.Length
import FieldCheck.Rules.Mailbox
import FieldCheck.Rules.Numeral
import FieldCheck.Rules.Phone
import FieldCheck.Rules.Presence
import FieldCheck.Rules.WebAddress
import FieldCheck.Target
import FieldCheck.Text.Ascii
import FieldCheck.Text.Blank
import FieldCheck.Text.Canonical
import FieldCheck.Text.Canonical.Pairs
import FieldCheck.Text.Canonical.Ranks
import FieldCheck.Text.Canonical.Singles
import FieldCheck.Text.Casing
import FieldCheck.Text.Casing.Lower
import FieldCheck.Text.Casing.Surroundings
import FieldCheck.Text.Casing.Upper
import FieldCheck.Text.Category
import FieldCheck.Text.Category.Letter
import FieldCheck.Text.Category.Mark
import FieldCheck.Text.Category.Number
import FieldCheck.Text.Category.Punctuation
import FieldCheck.Text.CodeMap
import FieldCheck.Text.CodeRange
import FieldCheck.Text.Hexadecimal
import FieldCheck.Text.Numeral
import FieldCheck.Text.Quoted
import FieldCheck.Text.Quoted.Invisible
import FieldCheck.Text.Split
import FieldCheck.Text.Utf8
import FieldCheck.Validator
import FieldCheck.Value.Basic
import FieldCheck.Value.Json
import FieldCheck.Web.Address
import FieldCheck.Web.Host
import FieldCheck.Web.Percent
