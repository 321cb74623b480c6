import TierRelay.Calendar.Date
import TierRelay.Calendar.DateTime
import TierRelay.Calendar.Pattern
import TierRelay.Calendar.Rfc3339
import TierRelay.Calendar.Wire
import TierRelay.Chain
import TierRelay.Command.Arguments
import TierRelay.Command.Credentials
import TierRelay.Command.Query
import TierRelay.Command.Relay
import TierRelay.Command.Report
import TierRelay.Fault
import TierRelay.File
import TierRelay.Http.Header
import TierRelay.Http.Message
import TierRelay.Http.Network
import TierRelay.Http.RequestId
import TierRelay.Http.Status
import TierRelay.Http.Target
import TierRelay.Http.Wire
import TierRelay.Json.Number
import TierRelay.Json.Printer
import TierRelay.Json.Raw
import TierRelay.Json.Token
import TierRelay.Json.Value
import TierRelay.Log.Filter
import TierRelay.Main
import TierRelay.Net.Ipv4
import TierRelay.Net.Ipv6
import TierRelay.Net.SocketAddress
import TierRelay.Query.Form
import TierRelay.Query.Pagination
import TierRelay.Record.Kind
import TierRelay.Record.Page
import TierRelay.Record.Seed
import TierRelay.Record.Store
import TierRelay.Role
import TierRelay.Routes
import TierRelay.Settings.Basic
import TierRelay.Settings.Document
import TierRelay.Settings.Issue
import TierRelay.Settings.Load
import TierRelay.Shutdown
import TierRelay.Startup
import TierRelay.Text.Base64
import TierRelay.Text.Blank
import TierRelay.Text.Hex
import TierRelay.Text.Numeral
import TierRelay.Text.Percent
import TierRelay.Text.Shortest
import TierRelay.Text.Split
import TierRelay.Text.Utf8
import TierRelay.Tier.Answer
import TierRelay.Tier.Basic
import TierRelay.Tier.Event
import TierRelay.Tier.Forward
import TierRelay.Tier.Metrics
import TierRelay.Tier.Run
import TierRelay.Toml.Document
import TierRelay.Toml.Number
import TierRelay.Toml.Text
import TierRelay.Toml.Tree
import TierRelay.Url.Basic
import TierRelay.Url.Domain
import TierRelay.Url.Domain.Joiner
import TierRelay.Url.Domain.Mapping
import TierRelay.Url.Domain.Mark
import TierRelay.Url.Host
import TierRelay.Url.Parse
import TierRelay.Url.Punycode
import TierRelay.Url.Written
import TierRelay.Proofs.Numeral
import TierRelay.Proofs.WireDate
import TierRelay.Proofs.FormCodec
import TierRelay.Proofs.PageParameters
import TierRelay.Proofs.UrlParts
import TierRelay.Proofs.BuiltUrl
import TierRelay.Proofs.StableSort
import TierRelay.Proofs.StoreRuns
import TierRelay.Proofs.PageReading
import TierRelay.Proofs.StoreReference
import TierRelay.Proofs.RequestTarget
import TierRelay.Proofs.Dispatch
import TierRelay.Proofs.PageAnswers
import TierRelay.Proofs.ForwardingContract
import TierRelay.Proofs.ChainTransparency
import TierRelay.Proofs.DataTier
import TierRelay.Proofs.Accounting
import TierRelay.Proofs.Signals
import TierRelay.Proofs.Acceptance
import TierRelay.Proofs.RequestIds
import TierRelay.Proofs.TierSetup
import TierRelay.Proofs.WrittenFields
import TierRelay.Proofs.Marks
import TierRelay.Proofs.FormatOrder
import TierRelay.Proofs.RealDates
import TierRelay.Proofs.DateWindows
import TierRelay.Proofs.Spellings
import TierRelay.Proofs.PageArithmetic
import TierRelay.Proofs.SettingsIssues
import TierRelay.Proofs.QueryIndependence
import TierRelay.Proofs.NamedValues
import TierRelay.Proofs.JsonTokens
import TierRelay.Proofs.JsonRoundTrip
import TierRelay.Proofs.PageBody
import TierRelay.Proofs.EffectiveSettings
import TierRelay.Proofs.FailureLog
import TierRelay.Proofs.OptionWords
import TierRelay.Proofs.AskedQuery
import TierRelay.Proofs.JsonGrammar
import TierRelay.Proofs.SeedDocuments
import TierRelay.Proofs.SettingsDocuments
