import Highlighter.Builtin.Basic
import Highlighter.Builtin.JavaScript
import Highlighter.Builtin.Markup
import Highlighter.Builtin.Php
import Highlighter.Builtin.Python
import Highlighter.Data.Json
import Highlighter.Data.Number
import Highlighter.Data.Scan
import Highlighter.Data.Toml.Reader
import Highlighter.Data.Toml.Scalar
import Highlighter.Data.Toml.Table
import Highlighter.Decimal.Shortest
import Highlighter.Extraction
import Highlighter.Fault
import Highlighter.Highlight
import Highlighter.Host.Basic
import Highlighter.Host.Command
import Highlighter.Host.Loader
import Highlighter.Host.Task
import Highlighter.Layer
import Highlighter.Notice
import Highlighter.Profile
import Highlighter.Profiling
import Highlighter.Proofs.Extraction
import Highlighter.Proofs.Rendering
import Highlighter.Proofs.Session.Pass
import Highlighter.Regex.CharSet
import Highlighter.Regex.Constant
import Highlighter.Regex.Cursor
import Highlighter.Regex.Match
import Highlighter.Regex.Reader
import Highlighter.Regex.Syntax
import Highlighter.Regex.Width
import Highlighter.Registry
import Highlighter.Resource.Address
import Highlighter.Resource.Charset
import Highlighter.Resource.Load
import Highlighter.Resource.Path
import Highlighter.Resource.Store
import Highlighter.Resource.Tables
import Highlighter.Resource.Url
import Highlighter.Rule.Basic
import Highlighter.Rule.Keyword
import Highlighter.Session
import Highlighter.Settings
import Highlighter.Signature.Grammar
import Highlighter.Signature.Scan
import Highlighter.Signature.State
import Highlighter.Snippet
import Highlighter.Span
import Highlighter.Text.Blank
import Highlighter.Text.Case
import Highlighter.Text.CharTable
import Highlighter.Text.Digit
import Highlighter.Text.Identifier
import Highlighter.Text.Lower
import Highlighter.Text.Numeral
import Highlighter.Text.Printable
import Highlighter.Text.Quoted
import Highlighter.Text.Word
import Highlighter.Value.Basic
import Highlighter.Value.Key
import Highlighter.Value.Shown
import Highlighter.Value.Table
import Highlighter.Proofs.Session.Interleaving
import Highlighter.Proofs.Session.Generations
import Highlighter.Proofs.Session.LatestSnapshot
import Highlighter.Proofs.Session.ProfileSwitch
import Highlighter.Proofs.Session.Rollback
import Highlighter.Proofs.Regex.Matching
import Highlighter.Proofs.Signature.Balanced
import Highlighter.Proofs.Signature.Dialect
import Highlighter.Proofs.Signature.Roundtrip
import Highlighter.Proofs.Session.Recovery
import Highlighter.Proofs.Host.Tasks
import Highlighter.Proofs.Host.Traffic
import Highlighter.Proofs.Host.Schedule
import Highlighter.Proofs.Host.Landing
import Highlighter.Proofs.Host.Steps
import Highlighter.Proofs.Host.Runs
import Highlighter.Proofs.Host.SingleFlight
import Highlighter.Proofs.Regex.Progress
import Highlighter.Proofs.Coercion
import Highlighter.Proofs.Extraction.Ranges
import Highlighter.Proofs.Keyword.Search
import Highlighter.Proofs.Keyword.Reading
import Highlighter.Proofs.Visibility
import Highlighter.Proofs.Extraction.Totality
import Highlighter.Proofs.Signature.Reading
import Highlighter.Proofs.Signature.BlockComment
import Highlighter.Proofs.Session.Closing
import Highlighter.Proofs.Extraction.Agreement
import Highlighter.Proofs.Regex.Repetition
import Highlighter.Proofs.Regex.Reading
import Highlighter.Proofs.Signature.SlotState
import Highlighter.Proofs.Signature.Parameter
import Highlighter.Proofs.Signature.TopLevel
import Highlighter.Proofs.Snippet.Lines
import Highlighter.Proofs.Snippet.Normal
import Highlighter.Proofs.Snippet.Embedding
import Highlighter.Proofs.FlatView
import Highlighter.Proofs.Extraction.Validation
import Highlighter.Proofs.Resource.Loading
import Highlighter.Proofs.Host.Resolving
import Highlighter.Proofs.Counting.Blocks
import Highlighter.Proofs.Regex.Captures
import Highlighter.Proofs.Signature.Slots
import Highlighter.Proofs.Signature.Appending
import Highlighter.Proofs.Signature.Hidden
import Highlighter.Proofs.Resource.Locating
import Highlighter.Proofs.Signature.Transition
import Highlighter.Proofs.Signature.Invariant
