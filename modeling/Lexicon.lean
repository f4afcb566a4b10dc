import Lexicon.Text.Reader
import Lexicon.Text.Utf8
import Lexicon.Text.Utf16
import Lexicon.Text.Windows1252
import Lexicon.Text.Digit
import Lexicon.Text.Uppercase
import Lexicon.Text.Blank
import Lexicon.Text.GraphemeExtend
import Lexicon.Text.Printable
import Lexicon.Text.Terminal
import Lexicon.Text.Category
import Lexicon.Text.Alphabetic
import Lexicon.Text.Script
import Lexicon.Text.ScriptUse
import Lexicon.Text.BinaryProperty
import Lexicon.Text.Boundary
import Lexicon.Text.Age
import Lexicon.Text.CaseFolding
import Lexicon.Text.Property
import Lexicon.Number.Rounding
import Lexicon.Number.Binary64
import Lexicon.Number.Decimal
import Lexicon.Number.Reading
import Lexicon.Number.Grouped
import Lexicon.Number.FileSize
import Lexicon.Number.Duration
import Lexicon.Text.Padded
import Lexicon.Text.Quoted
import Lexicon.Vocabulary
import Lexicon.Corpus.Record
import Lexicon.Corpus.Encoding
import Lexicon.Term
import Lexicon.Noise
import Lexicon.Casing
import Lexicon.Wordlist
import Lexicon.Generation
import Lexicon.Files.Path
import Lexicon.Files.IoError
import Lexicon.Files.Disk
import Lexicon.Failure
import Lexicon.Files.Draft
import Lexicon.Delivery
import Lexicon.Event
import Lexicon.Corpus.Loading
import Lexicon.Pattern.Fault
import Lexicon.Pattern.Cursor
import Lexicon.Pattern.Node
import Lexicon.Pattern.Escape
import Lexicon.Pattern.SetParser
import Lexicon.Pattern.Parser
import Lexicon.Pattern.CharSet
import Lexicon.Pattern.Regex
import Lexicon.Pattern.Size
import Lexicon.Pattern.Meaning
import Lexicon.Pattern
import Lexicon.LogFilter
import Lexicon.Config
import Lexicon.Console.Style
import Lexicon.Console.Summary
import Lexicon.Console.Notice
import Lexicon.Console.Spinner
import Lexicon.Run
import Lexicon.CommandLine.Flag
import Lexicon.CommandLine.UsageError
import Lexicon.CommandLine.Options
import Lexicon.CommandLine.Parser
import Lexicon.CommandLine.Help
import Lexicon.Program
import Lexicon.Vocabulary.Operation
import Lexicon.Files.Session
import Lexicon.Number.Calendar
import Lexicon.Main
import Lexicon.Proofs.Vocabulary
import Lexicon.Proofs.Wordlist
import Lexicon.Proofs.TextOrder
import Lexicon.Proofs.Term
import Lexicon.Proofs.Generation
import Lexicon.Proofs.Record
import Lexicon.Proofs.Reader
import Lexicon.Proofs.Utf8
import Lexicon.Proofs.Utf16
import Lexicon.Proofs.Windows1252
import Lexicon.Proofs.Ascii
import Lexicon.Proofs.ByteOrderMark
import Lexicon.Proofs.Detection
import Lexicon.Proofs.Decoding
import Lexicon.Proofs.Reload
import Lexicon.Proofs.Disk
import Lexicon.Proofs.Delivery
import Lexicon.Proofs.SameTree
import Lexicon.Proofs.Stages
import Lexicon.Proofs.FileNames
import Lexicon.Proofs.Run
import Lexicon.Proofs.Counts
import Lexicon.Proofs.Union
import Lexicon.Proofs.Directories
import Lexicon.Proofs.WholeWrites
import Lexicon.Proofs.Session
import Lexicon.Proofs.CorpusForm
import Lexicon.Proofs.RawLine
import Lexicon.Proofs.Footprint
import Lexicon.Proofs.DryRun
import Lexicon.Proofs.Storable
import Lexicon.Proofs.StoredText
import Lexicon.Proofs.Seeds
import Lexicon.Proofs.Reporting
import Lexicon.Proofs.Layout
import Lexicon.Proofs.Rerun
import Lexicon.Proofs.Multibyte
import Lexicon.Proofs.Binary64
import Lexicon.Proofs.DigitShare
import Lexicon.Proofs.Threshold
import Lexicon.Proofs.Casing
import Lexicon.Proofs.Config
import Lexicon.Proofs.Request
import Lexicon.Proofs.Slice
import Lexicon.Proofs.RecordOffsets
import Lexicon.Proofs.Checked
import Lexicon.Proofs.Digits
import Lexicon.Proofs.Grouped
import Lexicon.Proofs.Duration
import Lexicon.Proofs.Operation
