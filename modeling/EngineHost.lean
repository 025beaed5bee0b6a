import EngineHost.Bytes
import EngineHost.CommandLine.Argument
import EngineHost.CommandLine.Count
import EngineHost.CommandLine.Report
import EngineHost.CommandLine.Request
import EngineHost.CommandLine.Run
import EngineHost.Config
import EngineHost.Config.Decode
import EngineHost.Config.Encode
import EngineHost.Config.Load
import EngineHost.Decimal.Layout
import EngineHost.Decimal.Shortest
import EngineHost.Document
import EngineHost.Document.Decode
import EngineHost.Document.Error
import EngineHost.Document.Json.Number
import EngineHost.Document.Json.Read
import EngineHost.Document.Toml.Read
import EngineHost.Document.Toml.Scalar
import EngineHost.Document.Toml.Table
import EngineHost.Document.Toml.Value
import EngineHost.Engine
import EngineHost.Engine.Example
import EngineHost.Engine.Option
import EngineHost.Engine.Stateless
import EngineHost.Fixed
import EngineHost.Handles
import EngineHost.Hex
import EngineHost.Host
import EngineHost.Host.Memory
import EngineHost.Host.Slots
import EngineHost.Main
import EngineHost.Message
import EngineHost.Numeral
import EngineHost.Proofs.CommandLine.Assignments
import EngineHost.Proofs.CommandLine.Continuation
import EngineHost.Proofs.CommandLine.EffectiveOptions
import EngineHost.Proofs.CommandLine.Failures
import EngineHost.Proofs.CommandLine.Noninterference
import EngineHost.Proofs.CommandLine.RunOutput
import EngineHost.Proofs.CommandLine.RunReport
import EngineHost.Proofs.CommandLine.SlotOrder
import EngineHost.Proofs.Config.Defaults
import EngineHost.Proofs.Config.RevisionNames
import EngineHost.Proofs.Config.RoundTrip
import EngineHost.Proofs.Document.FieldOrder
import EngineHost.Proofs.Document.Omission
import EngineHost.Proofs.Engine.AnyHost
import EngineHost.Proofs.Engine.Counter
import EngineHost.Proofs.Engine.OptionState
import EngineHost.Proofs.Engine.OptionValue
import EngineHost.Proofs.Engine.ReadBack
import EngineHost.Proofs.Host.Journal
import EngineHost.Proofs.Host.Loading
import EngineHost.Proofs.Host.World
import EngineHost.Proofs.Numeral.Decimal
import EngineHost.Proofs.Numeral.Grammar
import EngineHost.Proofs.Numeral.Int128
import EngineHost.Proofs.Numeral.Range
import EngineHost.Proofs.Registry.History
import EngineHost.Proofs.Result.Ownership
import EngineHost.Proofs.Session.Attempts
import EngineHost.Proofs.Session.BareEngine
import EngineHost.Proofs.Session.OptionOrder
import EngineHost.Proofs.Session.SharedHost
import EngineHost.Proofs.SortedMap.LastWins
import EngineHost.Proofs.Text.ByteOrder
import EngineHost.Proofs.Text.FixedOrder
import EngineHost.Proofs.Text.HexVerdict
import EngineHost.Proofs.Text.Hexadecimal
import EngineHost.Proofs.Text.WrittenForm
import EngineHost.Registry
import EngineHost.Result
import EngineHost.Revision
import EngineHost.Session
import EngineHost.SortedMap
import EngineHost.Status
import EngineHost.Text.Blank
import EngineHost.Text.Printable
import EngineHost.Text.Quoted
import EngineHost.Text.Terminal
import EngineHost.ValueError
