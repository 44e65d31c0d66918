import Highlighter.Category
import Highlighter.Command
import Highlighter.Error
import Highlighter.FileTree
import Highlighter.Highlight
import Highlighter.Language
import Highlighter.Main
import Highlighter.Output
import Highlighter.Output.Sink
import Highlighter.PartitionPoint
import Highlighter.Path
import Highlighter.Proofs.Block.Cut
import Highlighter.Proofs.Cell.Lookup
import Highlighter.Proofs.Cell.Paint
import Highlighter.Proofs.Command.Outcome
import Highlighter.Proofs.Command.Requests
import Highlighter.Proofs.Command.Settings
import Highlighter.Proofs.Command.Sources
import Highlighter.Proofs.Cursor.Delimited
import Highlighter.Proofs.Cursor.Highlight
import Highlighter.Proofs.Cursor.Loop
import Highlighter.Proofs.Cursor.Search
import Highlighter.Proofs.Cursor.Termination
import Highlighter.Proofs.Cursor.Words
import Highlighter.Proofs.Highlight.Appended
import Highlighter.Proofs.Highlight.CategoryAt
import Highlighter.Proofs.Highlight.Cells
import Highlighter.Proofs.Highlight.LineRange
import Highlighter.Proofs.Highlight.MarkerOrder
import Highlighter.Proofs.Highlight.Restart
import Highlighter.Proofs.Highlight.WordOrder
import Highlighter.Proofs.LineRules.LetterCase
import Highlighter.Proofs.LineRules.Specified
import Highlighter.Proofs.Output.Listing
import Highlighter.Proofs.Output.Screen
import Highlighter.Proofs.Output.Terminal
import Highlighter.Proofs.Output.Writing
import Highlighter.Proofs.Registry.Add
import Highlighter.Proofs.Registry.Commute
import Highlighter.Proofs.Registry.Consistency
import Highlighter.Proofs.Registry.Directory
import Highlighter.Proofs.Registry.History
import Highlighter.Proofs.Registry.RuleName
import Highlighter.Proofs.RuleSet.Built
import Highlighter.Proofs.Segment.Builder
import Highlighter.Proofs.Segment.Fuse
import Highlighter.Proofs.Segment.Restrict
import Highlighter.Proofs.Segment.Runs
import Highlighter.Proofs.Settings.LastLine
import Highlighter.Proofs.Settings.Reading
import Highlighter.Proofs.Settings.Value
import Highlighter.Proofs.Span.Absorbed
import Highlighter.Proofs.Span.Boundary
import Highlighter.Proofs.Span.Coverage
import Highlighter.Proofs.Span.Cut
import Highlighter.Proofs.Span.Delimited
import Highlighter.Proofs.Span.Ordered
import Highlighter.Proofs.Span.Paired
import Highlighter.Proofs.Span.Resolve
import Highlighter.Proofs.Span.Scanned
import Highlighter.Proofs.Span.Stretch
import Highlighter.Proofs.Span.Sweep
import Highlighter.Proofs.Text.LetterCase
import Highlighter.Proofs.Text.LineRange
import Highlighter.Proofs.Text.Occurrence
import Highlighter.Proofs.Text.Offset
import Highlighter.Proofs.Text.Position
import Highlighter.Proofs.Text.Slice
import Highlighter.Proofs.Text.Unquoted
import Highlighter.Proofs.Unicode.Lowercase
import Highlighter.Proofs.Vocabulary.FirstEntry
import Highlighter.Proofs.Vocabulary.FirstWord
import Highlighter.Proofs.Vocabulary.WholeWord
import Highlighter.Registry
import Highlighter.Registry.Directory
import Highlighter.RuleSet
import Highlighter.RuleSet.RuleFile
import Highlighter.Segment
import Highlighter.Settings
import Highlighter.Span
import Highlighter.Span.Resolve
import Highlighter.Text.Basic
import Highlighter.Text.Encoding
import Highlighter.Text.Line
import Highlighter.Text.Occurrence
import Highlighter.Toml.Document
import Highlighter.Toml.Entry
import Highlighter.Toml.Number
import Highlighter.Toml.Quotation
import Highlighter.Toml.Scan
import Highlighter.Toml.Time
import Highlighter.Toml.Value
import Highlighter.Unicode.CaseFold
import Highlighter.Unicode.Cased
import Highlighter.Unicode.Lowercase
import Highlighter.Unicode.Printable
import Highlighter.Unicode.RangeTable
import Highlighter.Unicode.WordChar
import Highlighter.Vocabulary
