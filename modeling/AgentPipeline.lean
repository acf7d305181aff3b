import AgentPipeline.Cancellation.Group
import AgentPipeline.Cancellation.Source
import AgentPipeline.Codec.Basic
import AgentPipeline.Codec.Evaluation
import AgentPipeline.Codec.Event
import AgentPipeline.Codec.Form
import AgentPipeline.Codec.Member
import AgentPipeline.Codec.Model
import AgentPipeline.Codec.Run
import AgentPipeline.Codec.Settings
import AgentPipeline.Command.Basic
import AgentPipeline.Command.Error
import AgentPipeline.Command.Evaluate
import AgentPipeline.Command.Grammar
import AgentPipeline.Command.History
import AgentPipeline.Command.Models
import AgentPipeline.Command.Perform
import AgentPipeline.Command.Project
import AgentPipeline.Command.Run
import AgentPipeline.Command.Scene
import AgentPipeline.Evaluation.Basic
import AgentPipeline.Evaluation.Error
import AgentPipeline.Evaluation.Snapshot
import AgentPipeline.Event
import AgentPipeline.History.Basic
import AgentPipeline.History.Store
import AgentPipeline.Http.Client
import AgentPipeline.Http.Message
import AgentPipeline.Http.Url
import AgentPipeline.Json.Decode
import AgentPipeline.Json.Document
import AgentPipeline.Json.Printer
import AgentPipeline.Json.Reader
import AgentPipeline.Json.Value
import AgentPipeline.Main
import AgentPipeline.Model.Basic
import AgentPipeline.Model.Registry
import AgentPipeline.Model.Sync
import AgentPipeline.Number.Double
import AgentPipeline.Number.Reading
import AgentPipeline.Pipeline.Basic
import AgentPipeline.Pipeline.Drive
import AgentPipeline.Pipeline.Operations
import AgentPipeline.Pipeline.Pursuit
import AgentPipeline.Poller.Basic
import AgentPipeline.Poller.Operations
import AgentPipeline.Poller.Polling
import AgentPipeline.Poller.Session
import AgentPipeline.Proofs.Cancellation.Group
import AgentPipeline.Proofs.Cancellation.Source
import AgentPipeline.Proofs.Cancellation.Task
import AgentPipeline.Proofs.Codec.Carried
import AgentPipeline.Proofs.Codec.Evaluation
import AgentPipeline.Proofs.Codec.Event
import AgentPipeline.Proofs.Codec.FieldNames
import AgentPipeline.Proofs.Codec.Gives
import AgentPipeline.Proofs.Codec.Model
import AgentPipeline.Proofs.Codec.Restore
import AgentPipeline.Proofs.Codec.RoundTrip
import AgentPipeline.Proofs.Codec.Run
import AgentPipeline.Proofs.Command.Evaluate
import AgentPipeline.Proofs.Command.Leads
import AgentPipeline.Proofs.Command.Models
import AgentPipeline.Proofs.Command.Precedence
import AgentPipeline.Proofs.Command.Prepared
import AgentPipeline.Proofs.Command.Pursuit
import AgentPipeline.Proofs.Command.Questions
import AgentPipeline.Proofs.Command.Run
import AgentPipeline.Proofs.Command.Yields
import AgentPipeline.Proofs.Evaluation.TakeOver
import AgentPipeline.Proofs.History.Reopen
import AgentPipeline.Proofs.Http.Naming
import AgentPipeline.Proofs.Http.Reading
import AgentPipeline.Proofs.Http.Segments
import AgentPipeline.Proofs.Http.Words
import AgentPipeline.Proofs.Json.Nesting
import AgentPipeline.Proofs.Json.Numeral
import AgentPipeline.Proofs.Json.Payload
import AgentPipeline.Proofs.Json.Quoted
import AgentPipeline.Proofs.Json.Reread
import AgentPipeline.Proofs.Json.Unchanged
import AgentPipeline.Proofs.Model.Change
import AgentPipeline.Proofs.Model.Merge
import AgentPipeline.Proofs.Model.Refresh
import AgentPipeline.Proofs.Model.Reload
import AgentPipeline.Proofs.Model.Removal
import AgentPipeline.Proofs.Model.Selection
import AgentPipeline.Proofs.Model.Union
import AgentPipeline.Proofs.Model.Unstored
import AgentPipeline.Proofs.Pipeline.Account
import AgentPipeline.Proofs.Pipeline.Alike
import AgentPipeline.Proofs.Pipeline.Answers
import AgentPipeline.Proofs.Pipeline.Attempts
import AgentPipeline.Proofs.Pipeline.CancelWays
import AgentPipeline.Proofs.Pipeline.Cancellation
import AgentPipeline.Proofs.Pipeline.DataFlow
import AgentPipeline.Proofs.Pipeline.Dispatch
import AgentPipeline.Proofs.Pipeline.Drive
import AgentPipeline.Proofs.Pipeline.Faults
import AgentPipeline.Proofs.Pipeline.Happening
import AgentPipeline.Proofs.Pipeline.Labels
import AgentPipeline.Proofs.Pipeline.Modes
import AgentPipeline.Proofs.Pipeline.Observation
import AgentPipeline.Proofs.Pipeline.Occurrence
import AgentPipeline.Proofs.Pipeline.Pursuit
import AgentPipeline.Proofs.Pipeline.PursuitCancel
import AgentPipeline.Proofs.Pipeline.PursuitEnd
import AgentPipeline.Proofs.Pipeline.PursuitLeft
import AgentPipeline.Proofs.Pipeline.PursuitModels
import AgentPipeline.Proofs.Pipeline.PursuitNotices
import AgentPipeline.Proofs.Pipeline.Refusal
import AgentPipeline.Proofs.Pipeline.Rest
import AgentPipeline.Proofs.Pipeline.Snapshot
import AgentPipeline.Proofs.Pipeline.SpentToken
import AgentPipeline.Proofs.Pipeline.Turn
import AgentPipeline.Proofs.Pipeline.Twins
import AgentPipeline.Proofs.Poller.Calls
import AgentPipeline.Proofs.Poller.Chronicle
import AgentPipeline.Proofs.Poller.Cursor
import AgentPipeline.Proofs.Poller.Desk
import AgentPipeline.Proofs.Poller.Ending
import AgentPipeline.Proofs.Poller.Lifecycle
import AgentPipeline.Proofs.Poller.Mirror
import AgentPipeline.Proofs.Poller.Move
import AgentPipeline.Proofs.Poller.News
import AgentPipeline.Proofs.Poller.Order
import AgentPipeline.Proofs.Poller.Overtaking
import AgentPipeline.Proofs.Poller.Pause
import AgentPipeline.Proofs.Poller.Refusal
import AgentPipeline.Proofs.Poller.Requests
import AgentPipeline.Proofs.Poller.Session
import AgentPipeline.Proofs.Poller.Sound
import AgentPipeline.Proofs.Poller.Tail
import AgentPipeline.Proofs.Poller.Tasks
import AgentPipeline.Proofs.Poller.Timer
import AgentPipeline.Proofs.Poller.Timing
import AgentPipeline.Proofs.Poller.Unwritten
import AgentPipeline.Proofs.Poller.WriteThrough
import AgentPipeline.Proofs.Rehearsal.Pursuit
import AgentPipeline.Proofs.Run.Announcement
import AgentPipeline.Proofs.Run.Moves
import AgentPipeline.Proofs.Run.Shape
import AgentPipeline.Proofs.Run.Verdict
import AgentPipeline.Proofs.Service.Message
import AgentPipeline.Proofs.Service.Overheard
import AgentPipeline.Proofs.SortedMap.Merge
import AgentPipeline.Proofs.Store.Directory
import AgentPipeline.Proofs.Store.Durable
import AgentPipeline.Proofs.Store.Faultless
import AgentPipeline.Proofs.Store.Opening
import AgentPipeline.Proofs.Terminal.Dialogue
import AgentPipeline.Proofs.Terminal.Excerpt
import AgentPipeline.Proofs.Text.Blank
import AgentPipeline.Proofs.Text.Decimal
import AgentPipeline.Proofs.Text.Utf8
import AgentPipeline.Proofs.Text.Words
import AgentPipeline.Proofs.Timestamp.Calendar
import AgentPipeline.Proofs.Timestamp.Parse
import AgentPipeline.Proofs.Timestamp.Print
import AgentPipeline.Proofs.Uuid
import AgentPipeline.Rehearsal.Cue
import AgentPipeline.Rehearsal.Evaluation
import AgentPipeline.Rehearsal.Notice
import AgentPipeline.Rehearsal.Order.Basic
import AgentPipeline.Rehearsal.Order.Evaluator
import AgentPipeline.Rehearsal.Order.Pipeline
import AgentPipeline.Rehearsal.Order.Registry
import AgentPipeline.Rehearsal.Pipeline
import AgentPipeline.Rehearsal.Server
import AgentPipeline.Rehearsal.Service
import AgentPipeline.Run.Basic
import AgentPipeline.Run.Error
import AgentPipeline.Run.Lifecycle
import AgentPipeline.Service.Delayed
import AgentPipeline.Service.Error
import AgentPipeline.Service.Recording
import AgentPipeline.Service.Request
import AgentPipeline.Settings
import AgentPipeline.Settings.File
import AgentPipeline.Settings.Section
import AgentPipeline.SortedMap
import AgentPipeline.Stage
import AgentPipeline.Store.Basic
import AgentPipeline.Store.Directory
import AgentPipeline.Store.FileChange
import AgentPipeline.Store.FileTree
import AgentPipeline.Store.Memory
import AgentPipeline.Supply
import AgentPipeline.Terminal.Console
import AgentPipeline.Terminal.Report
import AgentPipeline.Terminal.Style
import AgentPipeline.Text.Blank
import AgentPipeline.Text.Decimal
import AgentPipeline.Text.Utf8
import AgentPipeline.Timestamp
import AgentPipeline.Toml.Reader
import AgentPipeline.Toml.Value
import AgentPipeline.Uuid
