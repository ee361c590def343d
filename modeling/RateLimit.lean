import RateLimit.Admin.Run
import RateLimit.Admin.Task
import RateLimit.Counter
import RateLimit.Counter.Run
import RateLimit.Decision
import RateLimit.Fault
import RateLimit.Http.App
import RateLimit.Http.Guard
import RateLimit.Http.Handler
import RateLimit.Http.Message
import RateLimit.Http.Origin
import RateLimit.Http.Route
import RateLimit.Identity
import RateLimit.Json.Item
import RateLimit.Json.Reader
import RateLimit.Json.Value
import RateLimit.Json.Writer
import RateLimit.Limiter
import RateLimit.Log.Configuration
import RateLimit.Log.Level
import RateLimit.Log.Line
import RateLimit.Log.Record
import RateLimit.Log.Template
import RateLimit.Log.Value
import RateLimit.Main
import RateLimit.Number.Binary64
import RateLimit.Number.Decimal
import RateLimit.Number.Places
import RateLimit.Number.Reading
import RateLimit.Number.Rounding
import RateLimit.Number.Text
import RateLimit.Policy
import RateLimit.Proofs.Admin.ExitCode
import RateLimit.Proofs.Admin.Observation
import RateLimit.Proofs.Admin.Release
import RateLimit.Proofs.Admin.SameWindow
import RateLimit.Proofs.Counter.Ceiling
import RateLimit.Proofs.Counter.Check
import RateLimit.Proofs.Counter.Denial
import RateLimit.Proofs.Counter.Isolation
import RateLimit.Proofs.Counter.Ledger
import RateLimit.Proofs.Counter.Observation
import RateLimit.Proofs.Counter.Race.Basic
import RateLimit.Proofs.Counter.Race.OverAdmission
import RateLimit.Proofs.Counter.Race.Turn
import RateLimit.Proofs.Counter.ResetDate
import RateLimit.Proofs.Counter.Retention
import RateLimit.Proofs.Counter.SlidingLog
import RateLimit.Proofs.Counter.Step
import RateLimit.Proofs.Counter.Stored
import RateLimit.Proofs.Counter.Thinning
import RateLimit.Proofs.Http.Answer
import RateLimit.Proofs.Http.Caller
import RateLimit.Proofs.Http.Correlation
import RateLimit.Proofs.Http.Layers
import RateLimit.Proofs.Http.Limits
import RateLimit.Proofs.Http.Stamp
import RateLimit.Proofs.Http.Untrusted
import RateLimit.Proofs.Limiter.Enforce
import RateLimit.Proofs.Limiter.Reset
import RateLimit.Proofs.Limiter.RetryAfter
import RateLimit.Proofs.Log.JsonLine
import RateLimit.Proofs.Number.Nearest
import RateLimit.Proofs.Number.Rounding
import RateLimit.Proofs.Policy.Keyspace
import RateLimit.Proofs.Policy.Lifetime
import RateLimit.Proofs.Registry.Keyspace
import RateLimit.Proofs.Registry.Overlay
import RateLimit.Proofs.Registry.Room
import RateLimit.Proofs.Registry.Settings
import RateLimit.Proofs.Replica.Act
import RateLimit.Proofs.Replica.Counting
import RateLimit.Proofs.Replica.Delivery
import RateLimit.Proofs.Replica.FailOpen
import RateLimit.Proofs.Replica.Steady
import RateLimit.Proofs.Replica.Untouched
import RateLimit.Proofs.Settings.Origins
import RateLimit.Proofs.Settings.Timeouts
import RateLimit.Proofs.Settings.Values
import RateLimit.Proofs.Store.Held
import RateLimit.Proofs.Store.Redaction
import RateLimit.Proofs.Text.Hex
import RateLimit.Registry
import RateLimit.Replica.Basic
import RateLimit.Replica.Counting
import RateLimit.Settings.Basic
import RateLimit.Settings.Coercion
import RateLimit.Settings.Issue
import RateLimit.Settings.Origins
import RateLimit.Store.Address
import RateLimit.Store.Basic
import RateLimit.Store.Delivery
import RateLimit.Store.Reply
import RateLimit.Store.Window
import RateLimit.Table
import RateLimit.Text.Blank
import RateLimit.Text.CaseContext
import RateLimit.Text.Digit
import RateLimit.Text.Hex
import RateLimit.Text.Integer
import RateLimit.Text.Lower
import RateLimit.Text.Padding
import RateLimit.Text.Percent
import RateLimit.Text.Points
import RateLimit.Text.Printable
import RateLimit.Text.Quoted
import RateLimit.Text.Real
import RateLimit.Text.Split
import RateLimit.Text.Upper
import RateLimit.Text.Utf8
import RateLimit.Time.Calendar
import RateLimit.Time.Span
import RateLimit.Time.Timeout
import RateLimit.Url.Basic
import RateLimit.Url.Ip
import RateLimit.Url.Lookalike
import RateLimit.Url.Query
