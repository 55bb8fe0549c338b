import TaskGraph.CommandLine.Arguments
import TaskGraph.CommandLine.Basic
import TaskGraph.Configuration.Basic
import TaskGraph.Configuration.EnvFile
import TaskGraph.Configuration.File
import TaskGraph.Decimal.Layout
import TaskGraph.Decimal.Numeral
import TaskGraph.Decimal.Rounding
import TaskGraph.Decimal.Shortest
import TaskGraph.Decode
import TaskGraph.Document.Duration
import TaskGraph.Document.Payload
import TaskGraph.Document.Source
import TaskGraph.Document.Task
import TaskGraph.Document.Workflow
import TaskGraph.Evaluation.Basic
import TaskGraph.Evaluation.Recording
import TaskGraph.Execution.Calling
import TaskGraph.Execution.Dialogue
import TaskGraph.Execution.Forking
import TaskGraph.Execution.History
import TaskGraph.Execution.Iteration
import TaskGraph.Execution.Join
import TaskGraph.Execution.Listening
import TaskGraph.Execution.Request
import TaskGraph.Execution.Restart
import TaskGraph.Execution.Retry
import TaskGraph.Execution.Sequence
import TaskGraph.Expr.Arithmetic
import TaskGraph.Expr.Eval
import TaskGraph.Expr.Parser
import TaskGraph.Expr.Syntax
import TaskGraph.Expr.Token
import TaskGraph.Fault
import TaskGraph.Host.Basic
import TaskGraph.Host.Board
import TaskGraph.Host.Command
import TaskGraph.Host.Conduct
import TaskGraph.Host.Files
import TaskGraph.Host.Machine
import TaskGraph.Host.Process
import TaskGraph.Host.Run
import TaskGraph.Host.Timeline
import TaskGraph.Http.Calling
import TaskGraph.Http.Exchange
import TaskGraph.Http.Framing
import TaskGraph.Http.Message
import TaskGraph.Http.Percent
import TaskGraph.Http.Punycode
import TaskGraph.Http.Site
import TaskGraph.Http.Url
import TaskGraph.Json.Basic
import TaskGraph.Json.Depth
import TaskGraph.Json.Numeral
import TaskGraph.Json.Order
import TaskGraph.Json.Printer
import TaskGraph.Json.Reader
import TaskGraph.Main
import TaskGraph.Naming
import TaskGraph.Program.Basic
import TaskGraph.Program.Compiling
import TaskGraph.Program.Kinds
import TaskGraph.Proofs.Accord
import TaskGraph.Proofs.Calls.Blocks
import TaskGraph.Proofs.Calls.Bracketed
import TaskGraph.Proofs.Calls.Orderly
import TaskGraph.Proofs.Calls.Standing
import TaskGraph.Proofs.Cancellation.Halting
import TaskGraph.Proofs.Cancellation.Unbroken
import TaskGraph.Proofs.Congruence
import TaskGraph.Proofs.Dialogue
import TaskGraph.Proofs.Document.Interpolation
import TaskGraph.Proofs.Document.Reading
import TaskGraph.Proofs.Duration.Count
import TaskGraph.Proofs.Duration.Forms
import TaskGraph.Proofs.Duration.Iso
import TaskGraph.Proofs.Evaluation.Cursor
import TaskGraph.Proofs.Evaluation.Names
import TaskGraph.Proofs.Evaluation.Replay
import TaskGraph.Proofs.Evaluation.Sites
import TaskGraph.Proofs.Evaluation.Traversal
import TaskGraph.Proofs.Fork.Branches
import TaskGraph.Proofs.Fork.Deciding
import TaskGraph.Proofs.Fork.Fields
import TaskGraph.Proofs.Fork.Hearing
import TaskGraph.Proofs.Fork.Joining
import TaskGraph.Proofs.Graphs.Boundary
import TaskGraph.Proofs.Graphs.Counting
import TaskGraph.Proofs.Graphs.Execution
import TaskGraph.Proofs.Graphs.Inputs
import TaskGraph.Proofs.Graphs.Iteration
import TaskGraph.Proofs.Graphs.Surfacing
import TaskGraph.Proofs.Graphs.Tries
import TaskGraph.Proofs.Host.Accounts
import TaskGraph.Proofs.Host.Answers
import TaskGraph.Proofs.Host.Awake
import TaskGraph.Proofs.Host.Bound
import TaskGraph.Proofs.Host.Closed
import TaskGraph.Proofs.Host.Enlisted
import TaskGraph.Proofs.Host.Growth
import TaskGraph.Proofs.Host.Interruption
import TaskGraph.Proofs.Host.Reachable
import TaskGraph.Proofs.Host.Strands
import TaskGraph.Proofs.Host.Tally
import TaskGraph.Proofs.Host.Turns
import TaskGraph.Proofs.Json.Places
import TaskGraph.Proofs.Program.Acyclic
import TaskGraph.Proofs.Program.Compiled
import TaskGraph.Proofs.Program.Mirrors
import TaskGraph.Proofs.Program.Names
import TaskGraph.Proofs.Program.Origins
import TaskGraph.Proofs.Program.Registers
import TaskGraph.Proofs.Program.Steps
import TaskGraph.Proofs.Program.WellFormed
import TaskGraph.Proofs.Restart.Abandonment
import TaskGraph.Proofs.Restart.Agreement
import TaskGraph.Proofs.Restart.Chain
import TaskGraph.Proofs.Restart.Chronicle
import TaskGraph.Proofs.Restart.Course
import TaskGraph.Proofs.Restart.Lifecycle
import TaskGraph.Proofs.Restart.Pact
import TaskGraph.Proofs.Restart.Path
import TaskGraph.Proofs.Restart.PendingJump
import TaskGraph.Proofs.Restart.Progress
import TaskGraph.Proofs.Restart.Quiescence
import TaskGraph.Proofs.Restart.Rechecks
import TaskGraph.Proofs.Restart.Replay
import TaskGraph.Proofs.Restart.Traceless
import TaskGraph.Proofs.Restart.Transparency
import TaskGraph.Proofs.Scope.Admission
import TaskGraph.Proofs.Scope.Constancy
import TaskGraph.Proofs.Scope.Entry
import TaskGraph.Proofs.Scope.Persistence
import TaskGraph.Proofs.Sequence.Deeds
import TaskGraph.Proofs.Sequence.Isolation
import TaskGraph.Proofs.Sequence.Jump
import TaskGraph.Proofs.Sequence.Walk
import TaskGraph.Proofs.Signals.Expecting
import TaskGraph.Proofs.Signals.Feeding
import TaskGraph.Proofs.Signals.Listening
import TaskGraph.Proofs.Signals.Takings
import TaskGraph.Proofs.Signals.Timeline
import TaskGraph.Proofs.Signals.Traffic
import TaskGraph.Proofs.Signals.Waiting
import TaskGraph.Proofs.Termination.Budget
import TaskGraph.Proofs.Termination.Descent
import TaskGraph.Proofs.Termination.Finishing
import TaskGraph.Proofs.Termination.Rest
import TaskGraph.Proofs.Tracing
import TaskGraph.Proofs.World
import TaskGraph.Schema.Basic
import TaskGraph.Schema.Draft
import TaskGraph.Schema.Format
import TaskGraph.Schema.Format.Clock
import TaskGraph.Schema.Format.Mail
import TaskGraph.Schema.Format.Template
import TaskGraph.Schema.Notation.Early
import TaskGraph.Schema.Notation.Late
import TaskGraph.Schema.Notation.Words
import TaskGraph.Schema.Reader
import TaskGraph.Schema.Registry
import TaskGraph.Schema.Validation
import TaskGraph.Schema.Violation
import TaskGraph.Scope
import TaskGraph.Shell.Arithmetic
import TaskGraph.Shell.Builtin
import TaskGraph.Shell.Format
import TaskGraph.Shell.Glob
import TaskGraph.Shell.Parser
import TaskGraph.Shell.Run
import TaskGraph.Shell.State
import TaskGraph.Shell.Syntax
import TaskGraph.Text.Base64
import TaskGraph.Text.Blank
import TaskGraph.Text.Bytes
import TaskGraph.Text.Casing
import TaskGraph.Text.Category
import TaskGraph.Text.Category.Letters
import TaskGraph.Text.Category.Marks
import TaskGraph.Text.Category.Signs
import TaskGraph.Text.Category.Unseen
import TaskGraph.Text.Digit
import TaskGraph.Text.Pattern.Basic
import TaskGraph.Text.Pattern.Class
import TaskGraph.Text.Pattern.Reader
import TaskGraph.Text.Pattern.Set
import TaskGraph.Text.Property
import TaskGraph.Text.Run
import TaskGraph.Text.Script
import TaskGraph.Text.Shown
import TaskGraph.Toml.Reader
import TaskGraph.Toml.Scalar
import TaskGraph.Toml.Table
import TaskGraph.Uri
import TaskGraph.Yaml.Cursor
import TaskGraph.Yaml.Node
import TaskGraph.Yaml.Scalar
import TaskGraph.Yaml.Token
import TaskGraph.Yaml.Value
