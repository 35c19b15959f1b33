import FileSieve.Text.Blank
import FileSieve.Text.Digit
import FileSieve.Text.Letter
import FileSieve.Text.Identifier
import FileSieve.Text.Printable
import FileSieve.Text.LetterCase
import FileSieve.Text.Quoted
import FileSieve.Text.Split
import FileSieve.Text.Numeral
import FileSieve.Regex.Basic
import FileSieve.Regex.Error
import FileSieve.Regex.Escape
import FileSieve.Regex.Library
import FileSieve.Regex.Parse
import FileSieve.Regex.Match
import FileSieve.Path
import FileSieve.FileRef
import FileSieve.Glob.Basic
import FileSieve.Glob
import FileSieve.Number.Rounding
import FileSieve.Number.Binary64
import FileSieve.Number.Shortest
import FileSieve.Number.FloatLiteral
import FileSieve.ByteSize
import FileSieve.Value
import FileSieve.Journal
import FileSieve.ErrorCode
import FileSieve.Query
import FileSieve.Query.Builder
import FileSieve.Calendar.Date
import FileSieve.Calendar.Zone
import FileSieve.Calendar.Instant
import FileSieve.Calendar.Clock
import FileSieve.VirtualTag
import FileSieve.VirtualTag.Reader
import FileSieve.VirtualTag.Settings
import FileSieve.LineCount
import FileSieve.FileTable
import FileSieve.Metadata
import FileSieve.Metadata.Cache
import FileSieve.VirtualTag.Evaluation
import FileSieve.Settings.Merge
import FileSieve.Settings.Layers
import FileSieve.Settings.Schema
import FileSieve.Settings.Environment
import FileSieve.Yaml.Cursor
import FileSieve.Yaml.Text
import FileSieve.Yaml.Token
import FileSieve.Yaml.Scalar
import FileSieve.Yaml.Node
import FileSieve.Settings.Host
import FileSieve.Settings.HomeFolder
import FileSieve.Settings.Change
import FileSieve.Version
import FileSieve.Proofs.Glob.Meaning
import FileSieve.Proofs.Regex.Language
import FileSieve.Proofs.Regex.Reading
import FileSieve.Proofs.Glob.SearchPattern
import FileSieve.Proofs.Glob.Matching
import FileSieve.Proofs.Settings.Keyed
import FileSieve.Proofs.Settings.Precedence
import FileSieve.Proofs.Calendar.Transitions
import FileSieve.Proofs.Number.Whole
import FileSieve.Proofs.VirtualTag.CalendarWindow
import FileSieve.Proofs.ByteSize.Precision
import FileSieve.Proofs.Calendar.DateText
import FileSieve.Proofs.VirtualTag.RoundTrip
import FileSieve.Proofs.Glob.Grammar
import FileSieve.Proofs.Metadata.History
import FileSieve.Proofs.VirtualTag.Transparency
import FileSieve.Proofs.Calendar.Midnight
import FileSieve.Proofs.VirtualTag.DateWindow
import FileSieve.Proofs.Settings.Variables
import FileSieve.Proofs.Query.Building
import FileSieve.Proofs.VirtualTag.Refusal
import FileSieve.Proofs.Calendar.Clock
import FileSieve.Proofs.Number.Overflow
import FileSieve.Proofs.VirtualTag.Validation
import FileSieve.Proofs.VirtualTag.Verdict
import FileSieve.Proofs.Metadata.Refetch
import FileSieve.Proofs.Metadata.Accounting
import FileSieve.Proofs.VirtualTag.SkippedMidnight
import FileSieve.Proofs.VirtualTag.SizeBins
import FileSieve.Proofs.Text.Blank
import FileSieve.Proofs.Text.LetterCase
import FileSieve.Proofs.ByteSize.Value
import FileSieve.Proofs.ByteSize.Literal
import FileSieve.Proofs.Settings.Change
import FileSieve.Proofs.Settings.Frame
import FileSieve.Proofs.ByteSize.Monotone
import FileSieve.Proofs.Metadata.Tidying
import FileSieve.Proofs.Glob.Plain
import FileSieve.Proofs.Query.GlobLike
import FileSieve.Proofs.VirtualTag.DayLength
import FileSieve.Proofs.Path.Spelling
import FileSieve.Proofs.VirtualTag.Sections
import FileSieve.Proofs.Settings.Loading
import FileSieve.Proofs.Regex.Progress
import FileSieve.Proofs.Regex.Breakdown
import FileSieve.Proofs.Query.Breakdown
import FileSieve.Proofs.Calendar.DigitDate
import FileSieve.Proofs.VirtualTag.RefusedPart
import FileSieve.Proofs.VirtualTag.AcceptedDate
import FileSieve.Proofs.Metadata.Presence
import FileSieve.Proofs.Journal.Scope
import FileSieve.Proofs.Settings.Conformance
import FileSieve.Proofs.Number.Literal
import FileSieve.Proofs.Settings.Threshold
