import SwitchAcl.Batch
import SwitchAcl.Codec.Inventory
import SwitchAcl.Codec.Record
import SwitchAcl.Codec.RuleChange
import SwitchAcl.CommandLine.Argument
import SwitchAcl.CommandLine.Invocation
import SwitchAcl.CommandLine.Report
import SwitchAcl.Compilation
import SwitchAcl.Distinct
import SwitchAcl.Document
import SwitchAcl.Entry
import SwitchAcl.Inventory
import SwitchAcl.Json.Buffered
import SwitchAcl.Json.Literal
import SwitchAcl.Json.Printer
import SwitchAcl.Json.Reader
import SwitchAcl.Json.Value
import SwitchAcl.Loading
import SwitchAcl.Log
import SwitchAcl.LogFilter
import SwitchAcl.Lookups
import SwitchAcl.Main
import SwitchAcl.Match
import SwitchAcl.MemberAddresses
import SwitchAcl.Net.Address
import SwitchAcl.Net.Network
import SwitchAcl.Port
import SwitchAcl.Proofs.AddressGrammar
import SwitchAcl.Proofs.AddressText
import SwitchAcl.Proofs.Agreement
import SwitchAcl.Proofs.Batch
import SwitchAcl.Proofs.Blank
import SwitchAcl.Proofs.ChangedPorts
import SwitchAcl.Proofs.Clause
import SwitchAcl.Proofs.Codec
import SwitchAcl.Proofs.Compilation
import SwitchAcl.Proofs.CompiledSet
import SwitchAcl.Proofs.Constraints
import SwitchAcl.Proofs.Coverage
import SwitchAcl.Proofs.Decimal
import SwitchAcl.Proofs.Distinct
import SwitchAcl.Proofs.Document
import SwitchAcl.Proofs.Entry
import SwitchAcl.Proofs.Failure
import SwitchAcl.Proofs.Fields
import SwitchAcl.Proofs.Footprint
import SwitchAcl.Proofs.Growth
import SwitchAcl.Proofs.Inventory
import SwitchAcl.Proofs.Layout
import SwitchAcl.Proofs.Ledger
import SwitchAcl.Proofs.Literal
import SwitchAcl.Proofs.Lookup
import SwitchAcl.Proofs.Match
import SwitchAcl.Proofs.MatchText
import SwitchAcl.Proofs.MemberAddresses
import SwitchAcl.Proofs.Membership
import SwitchAcl.Proofs.NetworkText
import SwitchAcl.Proofs.Numeral
import SwitchAcl.Proofs.Outcomes
import SwitchAcl.Proofs.PortIndex
import SwitchAcl.Proofs.ProtocolClauses
import SwitchAcl.Proofs.ProtocolSpelling
import SwitchAcl.Proofs.RecordCodec
import SwitchAcl.Proofs.Rejection
import SwitchAcl.Proofs.Relisting
import SwitchAcl.Proofs.Repetition
import SwitchAcl.Proofs.Replacement
import SwitchAcl.Proofs.Report
import SwitchAcl.Proofs.Retraction
import SwitchAcl.Proofs.RuleChange
import SwitchAcl.Proofs.RuleEdits
import SwitchAcl.Proofs.Scope
import SwitchAcl.Proofs.Session
import SwitchAcl.Proofs.SettingEffects
import SwitchAcl.Proofs.Snapshot
import SwitchAcl.Proofs.StringMap
import SwitchAcl.Proofs.Token
import SwitchAcl.Protocol
import SwitchAcl.Record
import SwitchAcl.Regex
import SwitchAcl.Regex.Automaton
import SwitchAcl.Regex.CharSet
import SwitchAcl.Regex.ClassReader
import SwitchAcl.Regex.Condition
import SwitchAcl.Regex.Cursor
import SwitchAcl.Regex.Expression
import SwitchAcl.Regex.Fault
import SwitchAcl.Regex.Meaning
import SwitchAcl.Regex.Pattern
import SwitchAcl.Regex.Primitive
import SwitchAcl.Regex.Reader
import SwitchAcl.Regex.Tree
import SwitchAcl.Rule
import SwitchAcl.RuleChange
import SwitchAcl.Settings
import SwitchAcl.SettingsText
import SwitchAcl.StringMap
import SwitchAcl.Text.Alphanumeric
import SwitchAcl.Text.Blank
import SwitchAcl.Text.ByteSequences
import SwitchAcl.Text.CodePoints
import SwitchAcl.Text.Numeral
import SwitchAcl.Text.Terminal
import SwitchAcl.Toml.Reader
import SwitchAcl.Toml.Scalar
import SwitchAcl.Toml.Text
import SwitchAcl.Toml.Value
