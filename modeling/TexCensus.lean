import TexCensus.Analysis
import TexCensus.Command.Arguments
import TexCensus.Command.Log
import TexCensus.Command.Options
import TexCensus.Command.Run
import TexCensus.Command.Sources
import TexCensus.Data.Bits
import TexCensus.Data.Value
import TexCensus.Files.Path
import TexCensus.Files.Tree
import TexCensus.Frequency.Basic
import TexCensus.Frequency.Ledger
import TexCensus.Frequency.Ledger64
import TexCensus.Json.Fault
import TexCensus.Json.Members
import TexCensus.Json.Numeral
import TexCensus.Json.Printer
import TexCensus.Json.Reader
import TexCensus.Json.Token
import TexCensus.Main
import TexCensus.Markup.Cleaning
import TexCensus.Markup.Comment
import TexCensus.Markup.Counts
import TexCensus.Markup.Patterns
import TexCensus.Pattern.Basic
import TexCensus.Pattern.Search
import TexCensus.Record.Basic
import TexCensus.Record.Corrections
import TexCensus.Record.Document
import TexCensus.Record.Record64
import TexCensus.Report.Basic
import TexCensus.Report.Csv
import TexCensus.Report.Csv.Reader
import TexCensus.Report.Date
import TexCensus.Report.Description
import TexCensus.Report.Quoted
import TexCensus.Settings.Basic
import TexCensus.Settings.Error
import TexCensus.Settings.Source
import TexCensus.Stem.English
import TexCensus.Stem.French
import TexCensus.Stem.German
import TexCensus.Stem.Italian
import TexCensus.Stem.Portuguese
import TexCensus.Stem.Removal
import TexCensus.Stem.Spanish
import TexCensus.Stem.Suffix
import TexCensus.Text.Basic
import TexCensus.Text.Utf8
import TexCensus.Toml.Document
import TexCensus.Toml.Reader
import TexCensus.Toml.Scalar
import TexCensus.Toml.Token
import TexCensus.Unicode.Alphabetic
import TexCensus.Unicode.Lowercase
import TexCensus.Unicode.Ranges
import TexCensus.Unicode.Standalone
import TexCensus.Unicode.Uppercase
import TexCensus.Unicode.WhiteSpace
import TexCensus.Unicode.WordCharacter
import TexCensus.Words.Correction
import TexCensus.Words.Counts
import TexCensus.Words.Filter
import TexCensus.Words.Language
import TexCensus.Words.Stemmer
import TexCensus.Words.StopwordLists
import TexCensus.Words.Stopwords
import TexCensus.Words.Token
import TexCensus.Proofs.Frequency.Ledger
import TexCensus.Proofs.Frequency.View
import TexCensus.Proofs.Frequency.Refinement
import TexCensus.Proofs.Record.Corrections
import TexCensus.Proofs.Frequency.Ledger64
import TexCensus.Proofs.Record.Corrections64
import TexCensus.Proofs.Frequency.Count
import TexCensus.Proofs.Frequency.Merge
import TexCensus.Proofs.Words.Counts
import TexCensus.Proofs.Record.Setup
import TexCensus.Proofs.Record.Coherence
import TexCensus.Proofs.Text.Lines
import TexCensus.Proofs.Text.Utf8
import TexCensus.Proofs.Text.Utf8Order
import TexCensus.Proofs.Files.Tree
import TexCensus.Proofs.Files.Order
import TexCensus.Proofs.Command.Sources
import TexCensus.Proofs.Command.EachSource
import TexCensus.Proofs.Markup.Comment
import TexCensus.Proofs.Pattern.Inline
import TexCensus.Proofs.Markup.Joined
import TexCensus.Proofs.Markup.Dollar
import TexCensus.Proofs.Markup.StrayDollar
import TexCensus.Proofs.Json.Token
import TexCensus.Proofs.Json.Reader
import TexCensus.Proofs.Json.Printer
import TexCensus.Proofs.Record.Document
import TexCensus.Proofs.Files.Path
import TexCensus.Proofs.Command.Failure
import TexCensus.Proofs.Record.AppliedRules
import TexCensus.Proofs.Report.Csv
import TexCensus.Proofs.Pattern.Language
import TexCensus.Proofs.Pattern.Stretches
import TexCensus.Proofs.Words.Phrase
import TexCensus.Proofs.Markup.Cleaning
import TexCensus.Proofs.Markup.Commands
import TexCensus.Proofs.Markup.Citations
import TexCensus.Proofs.Markup.Figures
import TexCensus.Proofs.Markup.DollarText
import TexCensus.Proofs.Text.Utf8Ascii
import TexCensus.Proofs.Words.Token
import TexCensus.Proofs.Markup.BackslashRun
import TexCensus.Proofs.Record.CommentFree
import TexCensus.Proofs.Markup.LineByLine
import TexCensus.Proofs.Markup.PlainText
import TexCensus.Proofs.Unicode.Tables
import TexCensus.Proofs.Unicode.Capitals
import TexCensus.Proofs.Unicode.Fields
import TexCensus.Proofs.Words.Vocabulary
import TexCensus.Proofs.Record.Counted
import TexCensus.Proofs.Record.RefusedRules
import TexCensus.Proofs.Record.PhraseRules
import TexCensus.Proofs.Frequency.Ranking
import TexCensus.Proofs.Markup.CommandPlaces
import TexCensus.Proofs.Stem.Bounds
import TexCensus.Proofs.Pattern.FirstPlace
import TexCensus.Proofs.Markup.Scanners
import TexCensus.Proofs.Text.Numerals
import TexCensus.Proofs.Text.Delimited
import TexCensus.Proofs.Report.Calendar
import TexCensus.Proofs.Report.Date
import TexCensus.Proofs.Report.Ranked
import TexCensus.Proofs.Unicode.SmallForm
import TexCensus.Proofs.Words.Lowercased
