import Dialogue.Action.Error
import Dialogue.Action.Exchange
import Dialogue.Action.Remote
import Dialogue.Action.Request
import Dialogue.Action.Response
import Dialogue.Action.Stub
import Dialogue.Config.Basic
import Dialogue.Config.Environment
import Dialogue.Config.Error
import Dialogue.Config.Format
import Dialogue.Config.Storage
import Dialogue.Consistency.Checks
import Dialogue.Consistency.Warning
import Dialogue.Digest.Sha256
import Dialogue.Domain.Basic
import Dialogue.Domain.Loading
import Dialogue.Error
import Dialogue.Event.Basic
import Dialogue.Event.Wire
import Dialogue.Event.Written
import Dialogue.Flow.Basic
import Dialogue.Flow.Condition
import Dialogue.Flow.Error
import Dialogue.Flow.Step
import Dialogue.Flow.Validation
import Dialogue.Form
import Dialogue.Json.Basic
import Dialogue.Json.Parser
import Dialogue.Json.Printer
import Dialogue.Json.Record
import Dialogue.Json.RecordText
import Dialogue.LogLevel
import Dialogue.Number.Binary64
import Dialogue.Number.Hex
import Dialogue.Number.Scan
import Dialogue.Number.Shortest
import Dialogue.Session.Basic
import Dialogue.Session.Correction
import Dialogue.Slot.IntentFilter
import Dialogue.Slot.Mapping
import Dialogue.Slot.Resolver
import Dialogue.Story.Conflict
import Dialogue.Story.Graph
import Dialogue.Story.TurnState
import Dialogue.Story.WorkList
import Dialogue.Table
import Dialogue.Text.Blank
import Dialogue.Text.Quoted
import Dialogue.Text.Split
import Dialogue.Text.Unmarked
import Dialogue.Toml.Basic
import Dialogue.Toml.Draft
import Dialogue.Toml.Moment
import Dialogue.Toml.Parser
import Dialogue.Toml.Printer
import Dialogue.Toml.Quoted
import Dialogue.Toml.Scalar
import Dialogue.Tracker.Applied
import Dialogue.Tracker.Basic
import Dialogue.Tracker.ConversationId
import Dialogue.Tracker.State
import Dialogue.Url.Address
import Dialogue.Url.Basic
import Dialogue.Url.Host
import Dialogue.Url.Percent
import Dialogue.Url.Punycode
import Dialogue.Proofs.Tracker.Applied
import Dialogue.Proofs.Tracker.Replay
import Dialogue.Proofs.Table.Lookup
import Dialogue.Proofs.Tracker.Parts
import Dialogue.Proofs.Domain.Built
import Dialogue.Proofs.Form.Turn
import Dialogue.Proofs.Story.Occurrence
import Dialogue.Proofs.Story.Histories
import Dialogue.Proofs.Story.Conflict
import Dialogue.Proofs.Json.Record
import Dialogue.Proofs.Event.RoundTrip
import Dialogue.Proofs.Story.Enumeration
import Dialogue.Proofs.Session.Undo
import Dialogue.Proofs.Form.Cancellation
import Dialogue.Proofs.Form.Switching
import Dialogue.Proofs.Tracker.LastWriter
import Dialogue.Proofs.Session.Revert
import Dialogue.Proofs.Form.OpenQuestion
import Dialogue.Proofs.Story.Unseen
import Dialogue.Proofs.Story.Window
import Dialogue.Proofs.Session.Correction
import Dialogue.Proofs.Flow.Validation
import Dialogue.Proofs.Tracker.Snapshot
import Dialogue.Proofs.Story.Listening
import Dialogue.Proofs.Story.LastAction
import Dialogue.Proofs.Action.Answer
import Dialogue.Proofs.Json.NumberText
import Dialogue.Proofs.Json.ReadBack
import Dialogue.Proofs.Action.Body
import Dialogue.Proofs.Session.Remote
import Dialogue.Proofs.Tracker.NormalForm
import Dialogue.Proofs.Session.Restart
import Dialogue.Proofs.Story.Intent
import Dialogue.Proofs.Form.Repetition
import Dialogue.Proofs.Slot.Format
import Dialogue.Proofs.Slot.Resolution
import Dialogue.Proofs.Action.Inquiry
import Dialogue.Proofs.Form.Inquiry
import Dialogue.Proofs.Consistency.FirstUse
import Dialogue.Proofs.Consistency.Responses
import Dialogue.Proofs.Consistency.FormSlots
import Dialogue.Proofs.Consistency.Intents
import Dialogue.Proofs.Flow.Condition
import Dialogue.Proofs.Action.Stub
import Dialogue.Proofs.Config.Override
import Dialogue.Proofs.Json.Shape
import Dialogue.Proofs.Domain.Consistent
import Dialogue.Proofs.Domain.Outline
import Dialogue.Proofs.Domain.Faults
import Dialogue.Proofs.Domain.Loading
import Dialogue.Proofs.Number.Rounding
import Dialogue.Proofs.Number.Numeral
import Dialogue.Proofs.Json.Equality
import Dialogue.Proofs.Json.Compact
import Dialogue.Proofs.Story.Fingerprint
