import TimeWindow.Calendar.Date
import TimeWindow.Calendar.Timestamp
import TimeWindow.Calendar.Unit
import TimeWindow.Calendar.Wall
import TimeWindow.DateMath.Engine
import TimeWindow.DateMath.Epoch
import TimeWindow.DateMath.Evaluation
import TimeWindow.DateMath.Expression
import TimeWindow.DateMath.Shift
import TimeWindow.DateMath.Step
import TimeWindow.Fault
import TimeWindow.Format.Elapsed
import TimeWindow.Format.Pattern
import TimeWindow.Http.Body
import TimeWindow.Http.Checked
import TimeWindow.Http.Handler
import TimeWindow.Http.Health
import TimeWindow.Http.Preflight
import TimeWindow.Http.Route
import TimeWindow.Http.Server
import TimeWindow.Http.Tally
import TimeWindow.Http.Target
import TimeWindow.Http.View
import TimeWindow.Instant
import TimeWindow.Interval.Duration
import TimeWindow.Interval.Label
import TimeWindow.Interval.Ladder
import TimeWindow.Interval.QueryStep
import TimeWindow.Issue
import TimeWindow.Json.Basic
import TimeWindow.Json.Reader
import TimeWindow.Json.Writer
import TimeWindow.Number.Basic
import TimeWindow.Number.Binary64
import TimeWindow.Number.Double
import TimeWindow.Number.Numeral
import TimeWindow.Number.Precision
import TimeWindow.Number.Shortest
import TimeWindow.Proofs.Calendar.Boundaries
import TimeWindow.Proofs.Calendar.Days
import TimeWindow.Proofs.Calendar.Months
import TimeWindow.Proofs.Calendar.Tilings
import TimeWindow.Proofs.Calendar.Units
import TimeWindow.Proofs.DateMath.AcrossChanges
import TimeWindow.Proofs.DateMath.Bracketing
import TimeWindow.Proofs.DateMath.Decimal
import TimeWindow.Proofs.DateMath.Evaluation
import TimeWindow.Proofs.DateMath.Expression
import TimeWindow.Proofs.DateMath.Faults
import TimeWindow.Proofs.DateMath.Fiscal
import TimeWindow.Proofs.DateMath.FiscalRounding
import TimeWindow.Proofs.DateMath.Grammar
import TimeWindow.Proofs.DateMath.Holding
import TimeWindow.Proofs.DateMath.Order
import TimeWindow.Proofs.DateMath.Periods
import TimeWindow.Proofs.DateMath.Rounding
import TimeWindow.Proofs.DateMath.SameClock
import TimeWindow.Proofs.DateMath.SameInstant
import TimeWindow.Proofs.DateMath.Shift
import TimeWindow.Proofs.DateMath.ShiftLaws
import TimeWindow.Proofs.DateMath.Steady
import TimeWindow.Proofs.Http.Answers
import TimeWindow.Proofs.Http.Bodies
import TimeWindow.Proofs.Http.Counting
import TimeWindow.Proofs.Http.OwnSettings
import TimeWindow.Proofs.Http.PlainNow
import TimeWindow.Proofs.Http.SameReading
import TimeWindow.Proofs.Http.Sizing
import TimeWindow.Proofs.Interval.Durations
import TimeWindow.Proofs.Interval.Labels
import TimeWindow.Proofs.Interval.Printing
import TimeWindow.Proofs.Interval.Places
import TimeWindow.Proofs.Interval.Snapping
import TimeWindow.Proofs.Interval.SpanTexts
import TimeWindow.Proofs.Interval.Steps
import TimeWindow.Proofs.Number.Decimals
import TimeWindow.Proofs.Number.Digits
import TimeWindow.Proofs.Number.Grid
import TimeWindow.Proofs.Number.Seconds
import TimeWindow.Proofs.Number.Vanishing
import TimeWindow.Proofs.Occurrences
import TimeWindow.Proofs.Outcome
import TimeWindow.Proofs.Range.Dependence
import TimeWindow.Proofs.Range.Described
import TimeWindow.Proofs.Range.Descriptions
import TimeWindow.Proofs.Range.Distances
import TimeWindow.Proofs.Range.Expressions
import TimeWindow.Proofs.Range.Idempotence
import TimeWindow.Proofs.Range.Labels
import TimeWindow.Proofs.Range.Order
import TimeWindow.Proofs.Range.PlainNow
import TimeWindow.Proofs.Range.Probes
import TimeWindow.Proofs.Range.Reckoning
import TimeWindow.Proofs.Range.Resolution
import TimeWindow.Proofs.Range.RoundTrip
import TimeWindow.Proofs.Range.Spans
import TimeWindow.Proofs.Reading.Bars
import TimeWindow.Proofs.Reading.DefaultDate
import TimeWindow.Proofs.Reading.PivotYear
import TimeWindow.Proofs.Reading.Timestamps
import TimeWindow.Proofs.Reading.Tokens
import TimeWindow.Proofs.Reading.WrittenForms
import TimeWindow.Proofs.Reading.WrittenMoments
import TimeWindow.Proofs.Service.Action
import TimeWindow.Proofs.Service.Caches
import TimeWindow.Proofs.Service.Origins
import TimeWindow.Proofs.Service.Settings
import TimeWindow.Proofs.Trimming
import TimeWindow.Proofs.Zone.Beginning
import TimeWindow.Proofs.Zone.Naming
import TimeWindow.Proofs.Zone.Conversion
import TimeWindow.Proofs.Zone.Occurrence
import TimeWindow.Proofs.Zone.OneClock
import TimeWindow.Proofs.Zone.Settling
import TimeWindow.Proofs.Zone.Steady
import TimeWindow.Range.Basic
import TimeWindow.Range.Description
import TimeWindow.Range.Offset
import TimeWindow.Range.Preset
import TimeWindow.Range.Relative
import TimeWindow.Range.Resolve
import TimeWindow.Reading.DateValues
import TimeWindow.Reading.FreeForm
import TimeWindow.Reading.Iso
import TimeWindow.Reading.Token
import TimeWindow.Service.Field
import TimeWindow.Service.Log
import TimeWindow.Service.Refusal
import TimeWindow.Service.Session
import TimeWindow.Service.Settings
import TimeWindow.Text.Blank
import TimeWindow.Text.Case
import TimeWindow.Text.Digit
import TimeWindow.Text.Letter
import TimeWindow.Text.Printable
import TimeWindow.Text.Search
import TimeWindow.Text.Surrogate
import TimeWindow.Text.Utf8
import TimeWindow.Zone.America
import TimeWindow.Zone.Asia
import TimeWindow.Zone.Basic
import TimeWindow.Zone.Catalog
import TimeWindow.Zone.Europe
import TimeWindow.Zone.Pacific
import TimeWindow.Zone.Table
