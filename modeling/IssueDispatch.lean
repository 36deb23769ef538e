import IssueDispatch.Admin.Console
import IssueDispatch.Admin.Invocation
import IssueDispatch.Bus
import IssueDispatch.Bus.Memory
import IssueDispatch.Collaborators
import IssueDispatch.Decision
import IssueDispatch.Dedup
import IssueDispatch.Directive
import IssueDispatch.Escalation
import IssueDispatch.Event
import IssueDispatch.Fault
import IssueDispatch.Governor.Basic
import IssueDispatch.Governor.Events
import IssueDispatch.Governor.Scan
import IssueDispatch.Icebox
import IssueDispatch.Issue
import IssueDispatch.Journal
import IssueDispatch.Location
import IssueDispatch.Main
import IssueDispatch.Number.Binary64
import IssueDispatch.Number.Numeral
import IssueDispatch.Number.Power
import IssueDispatch.Number.Shortest
import IssueDispatch.Number.Summation
import IssueDispatch.Override
import IssueDispatch.Overrides
import IssueDispatch.Proofs.Bus
import IssueDispatch.Proofs.Decision
import IssueDispatch.Proofs.Decoding
import IssueDispatch.Proofs.Dedup
import IssueDispatch.Proofs.Delivery
import IssueDispatch.Proofs.Directive.Grammar
import IssueDispatch.Proofs.Directive.Latest
import IssueDispatch.Proofs.Dispatch
import IssueDispatch.Proofs.Expiry
import IssueDispatch.Proofs.Governor.Accounting
import IssueDispatch.Proofs.Governor.Activity
import IssueDispatch.Proofs.Governor.Announcing
import IssueDispatch.Proofs.Governor.Climbing
import IssueDispatch.Proofs.Governor.Containment
import IssueDispatch.Proofs.Governor.Cycles
import IssueDispatch.Proofs.Governor.Draining
import IssueDispatch.Proofs.Governor.FreshStart
import IssueDispatch.Proofs.Governor.Isolation
import IssueDispatch.Proofs.Governor.Keeping
import IssueDispatch.Proofs.Governor.Lifecycle
import IssueDispatch.Proofs.Governor.Listening
import IssueDispatch.Proofs.Governor.Modes
import IssueDispatch.Proofs.Governor.Moves
import IssueDispatch.Proofs.Governor.Parking
import IssueDispatch.Proofs.Governor.Placing
import IssueDispatch.Proofs.Governor.Progress
import IssueDispatch.Proofs.Governor.Questions
import IssueDispatch.Proofs.Governor.Ranking
import IssueDispatch.Proofs.Governor.Redelivery
import IssueDispatch.Proofs.Governor.Relating
import IssueDispatch.Proofs.Governor.Rounds
import IssueDispatch.Proofs.Governor.Scanning
import IssueDispatch.Proofs.Governor.Selection
import IssueDispatch.Proofs.Governor.Serving
import IssueDispatch.Proofs.Governor.SingleFlight
import IssueDispatch.Proofs.Governor.Soundness
import IssueDispatch.Proofs.Governor.Staircase
import IssueDispatch.Proofs.Governor.Steering
import IssueDispatch.Proofs.Governor.Surveying
import IssueDispatch.Proofs.Governor.Timeouts
import IssueDispatch.Proofs.Governor.Tracing
import IssueDispatch.Proofs.Governor.Verdict
import IssueDispatch.Proofs.Json.Numeral
import IssueDispatch.Proofs.Json.Reading
import IssueDispatch.Proofs.Number.Decimal
import IssueDispatch.Proofs.Number.Numeral
import IssueDispatch.Proofs.Number.Rounding
import IssueDispatch.Proofs.Number.Shortest
import IssueDispatch.Proofs.Number.Summation
import IssueDispatch.Proofs.Occurrence
import IssueDispatch.Proofs.Overrides
import IssueDispatch.Proofs.Queue.Consistency
import IssueDispatch.Proofs.Queue.Finality
import IssueDispatch.Proofs.Queue.Foresight
import IssueDispatch.Proofs.Queue.Frame
import IssueDispatch.Proofs.Queue.Ledger
import IssueDispatch.Proofs.Queue.Operation
import IssueDispatch.Proofs.Queue.Placement
import IssueDispatch.Proofs.Queue.Polling
import IssueDispatch.Proofs.Queue.PuttingBack
import IssueDispatch.Proofs.Queue.Recovery
import IssueDispatch.Proofs.Queue.Removal
import IssueDispatch.Proofs.Queue.Spending
import IssueDispatch.Proofs.Queue.WellFormed
import IssueDispatch.Proofs.Readership
import IssueDispatch.Proofs.Relating
import IssueDispatch.Proofs.Repeats
import IssueDispatch.Proofs.RoundTrip
import IssueDispatch.Proofs.RuleTable
import IssueDispatch.Proofs.Run
import IssueDispatch.Proofs.Settings.Findings
import IssueDispatch.Proofs.Settings.Validation
import IssueDispatch.Proofs.SharedBus.Delivery
import IssueDispatch.Proofs.SharedBus.History
import IssueDispatch.Proofs.SharedBus.Rows
import IssueDispatch.Proofs.Sorting
import IssueDispatch.Proofs.Standard
import IssueDispatch.Proofs.Store.Isolation
import IssueDispatch.Proofs.Store.Lifecycle
import IssueDispatch.Proofs.Store.Touchpoints
import IssueDispatch.Proofs.Store.Transactions
import IssueDispatch.Proofs.Store.Workflow
import IssueDispatch.Proofs.Text.Lines
import IssueDispatch.Run
import IssueDispatch.Runner
import IssueDispatch.ScanResult
import IssueDispatch.Session
import IssueDispatch.Settings
import IssueDispatch.Settings.Fields
import IssueDispatch.Settings.File
import IssueDispatch.Store.Basic
import IssueDispatch.Store.Events
import IssueDispatch.Store.Overrides
import IssueDispatch.Store.Phases
import IssueDispatch.Store.Queue
import IssueDispatch.Store.Rows
import IssueDispatch.Store.Sessions
import IssueDispatch.Store.Snapshot
import IssueDispatch.Store.Touchpoints
import IssueDispatch.Store.Workers
import IssueDispatch.Store.Workflow
import IssueDispatch.Strategy
import IssueDispatch.Text.Blank
import IssueDispatch.Text.Digit
import IssueDispatch.Text.Order
import IssueDispatch.Text.Printable
import IssueDispatch.Text.Quoted
import IssueDispatch.Text.Table
import IssueDispatch.Time.Calendar
import IssueDispatch.Time.Iso
import IssueDispatch.Touchpoint
import IssueDispatch.Value
import IssueDispatch.Value.Json
import IssueDispatch.Value.JsonText
import IssueDispatch.Work
import IssueDispatch.Worker
import IssueDispatch.Workflow
import IssueDispatch.World
import IssueDispatch.Yaml.Cursor
import IssueDispatch.Yaml.Node
import IssueDispatch.Yaml.Scalar
import IssueDispatch.Yaml.Text
import IssueDispatch.Yaml.Timestamp
import IssueDispatch.Yaml.Token
