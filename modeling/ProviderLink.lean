import ProviderLink.Base64
import ProviderLink.Bytes
import ProviderLink.Codec
import ProviderLink.Descriptor
import ProviderLink.Descriptor.Record
import ProviderLink.Descriptor.SelfDescribed
import ProviderLink.Dict
import ProviderLink.Function.Registry
import ProviderLink.Json
import ProviderLink.Json.Lexer
import ProviderLink.Json.Parser
import ProviderLink.Json.Reading
import ProviderLink.Json.Selected
import ProviderLink.Json.Token
import ProviderLink.Logging
import ProviderLink.Number
import ProviderLink.Number.Binary64
import ProviderLink.Number.Shortest
import ProviderLink.Proofs.Base64
import ProviderLink.Proofs.Codec
import ProviderLink.Proofs.Codec.RoundTrip
import ProviderLink.Proofs.Descriptor.Conversion
import ProviderLink.Proofs.Descriptor.Explicit
import ProviderLink.Proofs.Descriptor.Grammar
import ProviderLink.Proofs.Descriptor.Markers
import ProviderLink.Proofs.Descriptor.Reading
import ProviderLink.Proofs.Descriptor.Record
import ProviderLink.Proofs.Descriptor.Settled
import ProviderLink.Proofs.Dict
import ProviderLink.Proofs.Function.Evaluation
import ProviderLink.Proofs.Function.Registrations
import ProviderLink.Proofs.Function.Triggers
import ProviderLink.Proofs.Json.Canonical
import ProviderLink.Proofs.Json.Lexing
import ProviderLink.Proofs.Json.Nesting
import ProviderLink.Proofs.Json.Parsing
import ProviderLink.Proofs.Json.Printing
import ProviderLink.Proofs.Json.Reading
import ProviderLink.Proofs.Json.Record
import ProviderLink.Proofs.Json.Rereading
import ProviderLink.Proofs.Json.Selected
import ProviderLink.Proofs.Number.Numeral
import ProviderLink.Proofs.Number.Printing
import ProviderLink.Proofs.Number.Reading
import ProviderLink.Proofs.Ordered
import ProviderLink.Proofs.Outcome
import ProviderLink.Proofs.Provider.Demo
import ProviderLink.Proofs.Provider.Refinement
import ProviderLink.Proofs.Provider.Run
import ProviderLink.Proofs.Rpc.Arrival
import ProviderLink.Proofs.Rpc.ClientExchange
import ProviderLink.Proofs.Rpc.Connection
import ProviderLink.Proofs.Rpc.Deciding
import ProviderLink.Proofs.Rpc.Established
import ProviderLink.Proofs.Rpc.Exchanges
import ProviderLink.Proofs.Rpc.Failure
import ProviderLink.Proofs.Rpc.Framing
import ProviderLink.Proofs.Rpc.Gated
import ProviderLink.Proofs.Rpc.Hub
import ProviderLink.Proofs.Rpc.Identity
import ProviderLink.Proofs.Rpc.LocalClient
import ProviderLink.Proofs.Rpc.Message
import ProviderLink.Proofs.Rpc.Method
import ProviderLink.Proofs.Rpc.Params
import ProviderLink.Proofs.Rpc.Pieces
import ProviderLink.Proofs.Rpc.ReadBack
import ProviderLink.Proofs.Rpc.Refusal
import ProviderLink.Proofs.Rpc.Respond
import ProviderLink.Proofs.Rpc.Server
import ProviderLink.Proofs.Rpc.StreamClient
import ProviderLink.Proofs.Rpc.Terminal
import ProviderLink.Proofs.Runner.Apart
import ProviderLink.Proofs.Runner.Coherence
import ProviderLink.Proofs.Runner.Command
import ProviderLink.Proofs.Runner.Config
import ProviderLink.Proofs.Runner.Connecting
import ProviderLink.Proofs.Runner.Operation
import ProviderLink.Proofs.Runner.Precheck
import ProviderLink.Proofs.Runner.Remote
import ProviderLink.Proofs.Runner.Settings
import ProviderLink.Proofs.Runner.Simulation
import ProviderLink.Proofs.Runner.Tenure
import ProviderLink.Proofs.Schema.Edits
import ProviderLink.Proofs.Schema.Levels
import ProviderLink.Proofs.Schema.Record
import ProviderLink.Proofs.Schema.Satisfies
import ProviderLink.Proofs.Schema.SelfDescribed
import ProviderLink.Proofs.Schema.Validity
import ProviderLink.Proofs.Subscription.Sequential
import ProviderLink.Proofs.Subscription.Shared
import ProviderLink.Proofs.Text.Line
import ProviderLink.Proofs.Text.Utf8
import ProviderLink.Proofs.Value.Blame
import ProviderLink.Proofs.Value.Completion
import ProviderLink.Proofs.Value.Inhabits
import ProviderLink.Proofs.Value.Normal
import ProviderLink.Proofs.Value.Places
import ProviderLink.Provider
import ProviderLink.Provider.Demo
import ProviderLink.Provider.Scripted
import ProviderLink.ProviderError
import ProviderLink.Rpc.Client
import ProviderLink.Rpc.Failure
import ProviderLink.Rpc.Handshake
import ProviderLink.Rpc.Launch
import ProviderLink.Rpc.Message
import ProviderLink.Rpc.Method
import ProviderLink.Rpc.Params
import ProviderLink.Rpc.Server
import ProviderLink.Rpc.Serving
import ProviderLink.Rpc.Stream
import ProviderLink.Rpc.Transport
import ProviderLink.Runner.Config
import ProviderLink.Runner.ConfigFile
import ProviderLink.Runner.Connect
import ProviderLink.Runner.Roster
import ProviderLink.Schema
import ProviderLink.Schema.Presence
import ProviderLink.Schema.Record
import ProviderLink.Schema.SelfDescribed
import ProviderLink.Schema.Validity
import ProviderLink.Subscription.Store
import ProviderLink.Text.Character
import ProviderLink.Text.CombiningClass
import ProviderLink.Text.Composition
import ProviderLink.Text.Invisible
import ProviderLink.Text.Line
import ProviderLink.Text.Mark
import ProviderLink.Text.NormalForm
import ProviderLink.Text.Quoted
import ProviderLink.Text.Split
import ProviderLink.Toml
import ProviderLink.Toml.DateTime
import ProviderLink.Toml.Document
import ProviderLink.Toml.Record
import ProviderLink.Toml.Table
import ProviderLink.Toml.Token
import ProviderLink.Url
import ProviderLink.Url.Address
import ProviderLink.Url.Domain
import ProviderLink.Url.Domain.Direction
import ProviderLink.Url.Domain.Folding
import ProviderLink.Url.Domain.Joining
import ProviderLink.Url.Domain.Mapping
import ProviderLink.Url.Domain.Variant
import ProviderLink.Url.Punycode
import ProviderLink.Value.Path
import ProviderLink.Value.ValueType
import ProviderLink.Version.Requirement
