import FormatScan.CommandLine.Options
import FormatScan.CommandLine.Session
import FormatScan.Config.Basic
import FormatScan.Config.Json
import FormatScan.Config.Policy
import FormatScan.Correction
import FormatScan.Counts
import FormatScan.Engine.Basic
import FormatScan.Engine.Kind
import FormatScan.Event
import FormatScan.FileError
import FormatScan.FileTree.Basic
import FormatScan.FileTree.Discovery
import FormatScan.Json.Decode
import FormatScan.Json.Printer
import FormatScan.Json.Reader
import FormatScan.Json.Skip
import FormatScan.Json.Typed
import FormatScan.Json.Value
import FormatScan.Log.FieldValue
import FormatScan.Log.Filter
import FormatScan.Log.Record
import FormatScan.Main
import FormatScan.Path
import FormatScan.Pattern
import FormatScan.Regex.Ast
import FormatScan.Regex.AutomatonSize
import FormatScan.Regex.Bracket
import FormatScan.Regex.ByteSet
import FormatScan.Regex.CharStates
import FormatScan.Regex.Ends
import FormatScan.Regex.Escape
import FormatScan.Regex.Expr
import FormatScan.Regex.Fault
import FormatScan.Regex.Footprint
import FormatScan.Regex.Haystack
import FormatScan.Regex.Layout
import FormatScan.Regex.Meaning
import FormatScan.Regex.NormalForm
import FormatScan.Regex.Parser
import FormatScan.Regex.Source
import FormatScan.Regex.WordStates
import FormatScan.Report
import FormatScan.Run.Files
import FormatScan.Run.Partition
import FormatScan.Run.Scanner
import FormatScan.Run.Worker
import FormatScan.ScanError
import FormatScan.SelfCheck
import FormatScan.Signature.Basic
import FormatScan.Signature.Builtin
import FormatScan.Signature.Json
import FormatScan.Signature.Load
import FormatScan.Signature.Sanitize
import FormatScan.Stats
import FormatScan.Text.Blank
import FormatScan.Text.Decimal
import FormatScan.Text.Hex
import FormatScan.Text.Quoted
import FormatScan.Text.Whole
import FormatScan.Unicode.Category
import FormatScan.Unicode.Fold
import FormatScan.Unicode.Lookup
import FormatScan.Unicode.Newest
import FormatScan.Unicode.Property
import FormatScan.Unicode.RangeCode
import FormatScan.Unicode.Ranges
import FormatScan.Unicode.Script
import FormatScan.Unicode.Utf8
import FormatScan.Unicode.ValuedProperty
import FormatScan.Proofs.Counts.Lookup
import FormatScan.Proofs.Counts.Merge
import FormatScan.Proofs.Stats.Merge
import FormatScan.Proofs.Engine.Hits
import FormatScan.Proofs.Run.Cover
import FormatScan.Proofs.Run.Totals
import FormatScan.Proofs.Run.Invariance
import FormatScan.Proofs.Correction.Exclusion
import FormatScan.Proofs.Correction.PairLaw
import FormatScan.Proofs.Correction.Rivalry
import FormatScan.Proofs.Correction.Containers
import FormatScan.Proofs.Regex.Matching
import FormatScan.Proofs.Fallible
import FormatScan.Proofs.Regex.Escaped
import FormatScan.Proofs.Regex.Bottom
import FormatScan.Proofs.Regex.Sequence
import FormatScan.Proofs.Pattern.Opening
import FormatScan.Proofs.Engine.Candidates
import FormatScan.Proofs.Pattern.Anchored
import FormatScan.Proofs.Regex.Unplaced
import FormatScan.Proofs.Regex.Enclosed.Escape
import FormatScan.Proofs.Regex.Enclosed.Bracket
import FormatScan.Proofs.Regex.Enclosed.Operator
import FormatScan.Proofs.Regex.Enclosed.Pattern
import FormatScan.Proofs.Engine.Agreement
import FormatScan.Proofs.Engine.Filter
import FormatScan.Proofs.Engine.Effect
import FormatScan.Proofs.Run.Agreement
import FormatScan.Proofs.Pattern.Parents
import FormatScan.Proofs.Signature.Sanitize
import FormatScan.Proofs.Signature.Usable
import FormatScan.Proofs.Signature.Repaired
import FormatScan.Proofs.Signature.Compiled
import FormatScan.Proofs.Correction.Bound
import FormatScan.Proofs.Correction.Order
import FormatScan.Proofs.Regex.Gap
import FormatScan.Proofs.Pattern.Exact
import FormatScan.Proofs.Run.Work
import FormatScan.Proofs.Run.Outcome
import FormatScan.Proofs.Run.Skipped
import FormatScan.Proofs.Run.Accounting
import FormatScan.Proofs.Run.Interleaving
import FormatScan.Proofs.Run.Failures
import FormatScan.Proofs.Run.Order
import FormatScan.Proofs.Run.Contents
import FormatScan.Proofs.Json.Members
import FormatScan.Proofs.Json.Scalars
import FormatScan.Proofs.Json.Layout
import FormatScan.Proofs.Json.RoundTrip
import FormatScan.Proofs.Signature.Written
import FormatScan.Proofs.Signature.Fates
import FormatScan.Proofs.Run.Reported
import FormatScan.Proofs.Correction.Relocation
import FormatScan.Proofs.Regex.Additive
import FormatScan.Proofs.Regex.Beneath
import FormatScan.Proofs.Regex.StartMark
import FormatScan.Proofs.Pattern.Unanchored
import FormatScan.Proofs.Pattern.Families
import FormatScan.Proofs.Stats.History
import FormatScan.Proofs.Run.Dangling
import FormatScan.Proofs.Engine.Forgetting
import FormatScan.Proofs.Stats.Algebra
import FormatScan.Proofs.Run.Balance
import FormatScan.Proofs.Text.ByteOrder
import FormatScan.Proofs.Counts.Total
import FormatScan.Proofs.Report.Summary
import FormatScan.Proofs.Path.Steps
import FormatScan.Proofs.FileTree.Discovery
import FormatScan.Proofs.Text.Spelling
import FormatScan.Proofs.Pattern.Hexadecimal
import FormatScan.Proofs.Run.Width
import FormatScan.Proofs.Signature.Builtin
