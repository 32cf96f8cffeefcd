import DualStack.Command.Arguments
import DualStack.Command.Execute
import DualStack.Command.Grammar
import DualStack.Config.Decode
import DualStack.Config.Entity
import DualStack.Config.FamilySet
import DualStack.Config.Mode
import DualStack.Config.Snapshot
import DualStack.Config.Validation
import DualStack.Json.Reader
import DualStack.Json.Text
import DualStack.Json.Value
import DualStack.Json.Writer
import DualStack.Main
import DualStack.Manager.Delivery
import DualStack.Manager.Detection
import DualStack.Manager.EventLoop
import DualStack.Manager.LogEvent
import DualStack.Manager.Reception
import DualStack.Manager.Run
import DualStack.Manager.Statistics
import DualStack.Manager.Subscription
import DualStack.Net.Address
import DualStack.Net.Family
import DualStack.Net.Network
import DualStack.Net.ParseError
import DualStack.Net.Serialized
import DualStack.Net.V4
import DualStack.Net.V6
import DualStack.Proofs.Aborts
import DualStack.Proofs.Accounting
import DualStack.Proofs.AddressReaders
import DualStack.Proofs.AddressText
import DualStack.Proofs.Announcement
import DualStack.Proofs.Answering
import DualStack.Proofs.Coherence
import DualStack.Proofs.CommandEffects
import DualStack.Proofs.CommandLine
import DualStack.Proofs.Convergence
import DualStack.Proofs.Counters
import DualStack.Proofs.Delivery
import DualStack.Proofs.Derivation
import DualStack.Proofs.Detection
import DualStack.Proofs.DryRun
import DualStack.Proofs.Entities
import DualStack.Proofs.EntropyFields
import DualStack.Proofs.FieldTexts
import DualStack.Proofs.Gating
import DualStack.Proofs.GroupRecords
import DualStack.Proofs.HostBits
import DualStack.Proofs.InterfaceRecords
import DualStack.Proofs.Isolation
import DualStack.Proofs.LastWins
import DualStack.Proofs.LoadOutcome
import DualStack.Proofs.Loading
import DualStack.Proofs.Messages
import DualStack.Proofs.NetworkSyntax
import DualStack.Proofs.NetworkText
import DualStack.Proofs.NumberFields
import DualStack.Proofs.Numerals
import DualStack.Proofs.OperatorRecords
import DualStack.Proofs.Provenance
import DualStack.Proofs.ReadBack
import DualStack.Proofs.Reception
import DualStack.Proofs.Rechecking
import DualStack.Proofs.Records
import DualStack.Proofs.Recovery
import DualStack.Proofs.Repetition
import DualStack.Proofs.Respelling
import DualStack.Proofs.Run
import DualStack.Proofs.Session
import DualStack.Proofs.Store
import DualStack.Proofs.StoreHistory
import DualStack.Proofs.Subscription
import DualStack.Proofs.TableEntries
import DualStack.Proofs.Tokens
import DualStack.Proofs.Turns
import DualStack.Proofs.VersionLists
import DualStack.Schema
import DualStack.Settings.Daemon
import DualStack.Settings.Section
import DualStack.State.Capability
import DualStack.State.Derived
import DualStack.State.Notification
import DualStack.State.PipelineError
import DualStack.State.Record
import DualStack.Store.Database
import DualStack.Store.Failure
import DualStack.Store.Fields
import DualStack.Store.Memory
import DualStack.Store.NameMap
import DualStack.Store.Table
import DualStack.Text.Blank
import DualStack.Text.Decimal
import DualStack.Text.Extending
import DualStack.Text.Hexadecimal
import DualStack.Text.Quoted
import DualStack.Text.Split
import DualStack.Text.Unprintable
import DualStack.Toml.Document
import DualStack.Toml.Reader
import DualStack.Toml.Scalar
import DualStack.Toml.Text
import DualStack.Toml.Value
