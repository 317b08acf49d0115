import WebhookRegistry.Entries
import WebhookRegistry.Event
import WebhookRegistry.Json.Basic
import WebhookRegistry.Json.Display
import WebhookRegistry.Json.Reader
import WebhookRegistry.Json.Writer
import WebhookRegistry.Logging.ConsoleLine
import WebhookRegistry.Logging.Level
import WebhookRegistry.Logging.LogFile
import WebhookRegistry.Logging.Logger
import WebhookRegistry.Logging.Metadata
import WebhookRegistry.Logging.PlainText
import WebhookRegistry.Logging.RequestContext
import WebhookRegistry.Logging.Setup
import WebhookRegistry.Logging.Template
import WebhookRegistry.Number.Binary64
import WebhookRegistry.Number.Rounded
import WebhookRegistry.Number.Shortest
import WebhookRegistry.Paging.Keyset
import WebhookRegistry.Paging.PageToken
import WebhookRegistry.PushConfig
import WebhookRegistry.Schema.Check
import WebhookRegistry.Schema.Described
import WebhookRegistry.Schema.Encode
import WebhookRegistry.Schema.Kind
import WebhookRegistry.ServiceError
import WebhookRegistry.Settings.Environment
import WebhookRegistry.Settings.MaxPageSize
import WebhookRegistry.Settings.Property
import WebhookRegistry.Store.Basic
import WebhookRegistry.Store.Database
import WebhookRegistry.Store.Factory
import WebhookRegistry.Store.Key
import WebhookRegistry.Store.Memory
import WebhookRegistry.Store.Table
import WebhookRegistry.Text.Blank
import WebhookRegistry.Text.Digit
import WebhookRegistry.Text.Numeral
import WebhookRegistry.Text.Printable
import WebhookRegistry.Text.Quoted
import WebhookRegistry.Text.Uppercase
import WebhookRegistry.Time.Calendar
import WebhookRegistry.Time.Instant
import WebhookRegistry.Time.LogicalTime
import WebhookRegistry.Proofs.Paging.TokenRoundTrip
import WebhookRegistry.Proofs.Entries
import WebhookRegistry.Proofs.Json.RoundTrip
import WebhookRegistry.Proofs.Json.Display
import WebhookRegistry.Proofs.Paging.Order
import WebhookRegistry.Proofs.Schema.RoundTrip
import WebhookRegistry.Proofs.PushConfig
import WebhookRegistry.Proofs.Paging.Pages
import WebhookRegistry.Proofs.Store.Records
import WebhookRegistry.Proofs.Store.ListingLog
import WebhookRegistry.Proofs.Store.Database
import WebhookRegistry.Proofs.Store.Memory
import WebhookRegistry.Proofs.Store.Runs
import WebhookRegistry.Proofs.Store.Holdings
import WebhookRegistry.Proofs.Store.Listing
import WebhookRegistry.Proofs.Store.Traversal
import WebhookRegistry.Proofs.Store.Interchange
import WebhookRegistry.Proofs.WrittenValues
import WebhookRegistry.Proofs.Paging.TokenGrammar
import WebhookRegistry.Proofs.Paging.Resolution
import WebhookRegistry.Proofs.Store.AnyTimes
import WebhookRegistry.Proofs.Store.Refusals
import WebhookRegistry.Proofs.Store.Representation
import WebhookRegistry.Proofs.Store.Isolation
import WebhookRegistry.Proofs.Store.EventReplay
import WebhookRegistry.Proofs.Store.FactoryRuns
import WebhookRegistry.Proofs.Paging.Readings
import WebhookRegistry.Proofs.Paging.TokenVerdicts
import WebhookRegistry.Proofs.Store.OnePage
import WebhookRegistry.Proofs.Store.UnreadablePayloads
import WebhookRegistry.Proofs.Text.SettingGrammar
import WebhookRegistry.Proofs.Settings.MaxPageSize
import WebhookRegistry.Proofs.Schema.Places
import WebhookRegistry.Proofs.Schema.Faults
import WebhookRegistry.Proofs.Schema.Verdict
import WebhookRegistry.Proofs.Validation
import WebhookRegistry.Proofs.Schema.Spelling
import WebhookRegistry.Proofs.KeySpelling
import WebhookRegistry.Proofs.Store.ListingEvents
import WebhookRegistry.Proofs.Logging.Fields
import WebhookRegistry.Proofs.Logging.Metadata
import WebhookRegistry.Proofs.Logging.Template
import WebhookRegistry.Proofs.Logging.Events
import WebhookRegistry.Proofs.Logging.Losses
import WebhookRegistry.Proofs.Logging.Threshold
import WebhookRegistry.Proofs.Logging.Routes
import WebhookRegistry.Proofs.Store.LookAhead
import WebhookRegistry.Proofs.Paging.CreationTimes
import WebhookRegistry.Proofs.Logging.ConsoleBreaks
