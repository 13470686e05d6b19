import RegexExplainer.CharSet
import RegexExplainer.CommandLine.Arguments
import RegexExplainer.CommandLine.Config
import RegexExplainer.CommandLine.Execute
import RegexExplainer.Evaluation
import RegexExplainer.Expression.Basic
import RegexExplainer.Expression.Beginning
import RegexExplainer.Expression.Elaborate
import RegexExplainer.Expression.Footprint
import RegexExplainer.Main
import RegexExplainer.Pattern.Bracket
import RegexExplainer.Pattern.Escape
import RegexExplainer.Pattern.Fault
import RegexExplainer.Pattern.Group
import RegexExplainer.Pattern.Parse
import RegexExplainer.Pattern.Reader
import RegexExplainer.Pattern.Repetition
import RegexExplainer.Pattern.Tree
import RegexExplainer.Program.Basic
import RegexExplainer.Program.Place
import RegexExplainer.Program.Run
import RegexExplainer.Program.Search
import RegexExplainer.Regex.Compile
import RegexExplainer.Report
import RegexExplainer.Session
import RegexExplainer.Text.Basic
import RegexExplainer.Text.Terminal
import RegexExplainer.Token.Annotate
import RegexExplainer.Token.Bounds
import RegexExplainer.Unicode.Alphabetic
import RegexExplainer.Unicode.CaseFold
import RegexExplainer.Unicode.Letter
import RegexExplainer.Unicode.Mark
import RegexExplainer.Unicode.Property
import RegexExplainer.Unicode.Punctuation
import RegexExplainer.Unicode.Separator
import RegexExplainer.Proofs.CommandLine.Content
import RegexExplainer.Proofs.CommandLine.Grammar
import RegexExplainer.Proofs.CommandLine.Order
import RegexExplainer.Proofs.Engine.Literal
import RegexExplainer.Proofs.Engine.Search
import RegexExplainer.Proofs.Evaluation.Captures
import RegexExplainer.Proofs.Evaluation.Literal
import RegexExplainer.Proofs.Evaluation.Matches
import RegexExplainer.Proofs.Evaluation.Progress
import RegexExplainer.Proofs.Expression.Beginning
import RegexExplainer.Proofs.Expression.Literal
import RegexExplainer.Proofs.Highlight.Cover
import RegexExplainer.Proofs.Highlight.Fixpoint
import RegexExplainer.Proofs.Highlight.Normal
import RegexExplainer.Proofs.Highlight.Runs
import RegexExplainer.Proofs.Pattern.Literal
import RegexExplainer.Proofs.Pattern.Reader
import RegexExplainer.Proofs.Pattern.Spelling
import RegexExplainer.Proofs.Program.Literal
import RegexExplainer.Proofs.Program.Run
import RegexExplainer.Proofs.Regex.Literal
import RegexExplainer.Proofs.Regex.Search
import RegexExplainer.Proofs.Report.Codes
import RegexExplainer.Proofs.Report.Layout
import RegexExplainer.Proofs.Report.Readback
import RegexExplainer.Proofs.Report.Sections
import RegexExplainer.Proofs.Session.History
import RegexExplainer.Proofs.Snapshot.Coherent
import RegexExplainer.Proofs.Text.Byte
import RegexExplainer.Proofs.Text.Cut
import RegexExplainer.Proofs.Text.Decode
import RegexExplainer.Proofs.Text.Form
import RegexExplainer.Proofs.Text.Occurrence
import RegexExplainer.Proofs.Token.Append
import RegexExplainer.Proofs.Token.Boundary
import RegexExplainer.Proofs.Token.Counts
import RegexExplainer.Proofs.Token.Depth
import RegexExplainer.Proofs.Token.Escaped
import RegexExplainer.Proofs.Token.Grammar
import RegexExplainer.Proofs.Token.Literal
import RegexExplainer.Proofs.Token.Lookback
import RegexExplainer.Proofs.Token.Offset
import RegexExplainer.Proofs.Token.Openings
import RegexExplainer.Proofs.Token.Quoted
import RegexExplainer.Proofs.Token.Range
import RegexExplainer.Proofs.Token.Scan
import RegexExplainer.Proofs.Token.Surplus
