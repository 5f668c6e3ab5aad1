import SqlSkim.CommandLine.Run
import SqlSkim.CommandLine.Usage
import SqlSkim.CommandLine.Words
import SqlSkim.Config.Basic
import SqlSkim.Config.File
import SqlSkim.Config.FileTree
import SqlSkim.Config.Path
import SqlSkim.Config.Reader
import SqlSkim.Diagnostic.Basic
import SqlSkim.Diagnostic.Check
import SqlSkim.Diagnostic.Printer
import SqlSkim.Json
import SqlSkim.Main
import SqlSkim.Proofs.Comment.FixedPoint
import SqlSkim.Proofs.Diagnostic.Source
import SqlSkim.Proofs.Report.Basic
import SqlSkim.Proofs.Report.Compose
import SqlSkim.Proofs.Report.Reread
import SqlSkim.Proofs.Scan.Keyword
import SqlSkim.Proofs.Scan.Quiet
import SqlSkim.Proofs.Session.Transparency
import SqlSkim.Proofs.Statement.Segment
import SqlSkim.Proofs.Statement.Separator
import SqlSkim.Proofs.Text.Trim
import SqlSkim.Proofs.Text.Uppercase
import SqlSkim.Query.Comment
import SqlSkim.Query.Printer
import SqlSkim.Query.Report
import SqlSkim.Query.Session
import SqlSkim.Scan.Cut
import SqlSkim.Scan.Identifier
import SqlSkim.Scan.Paren
import SqlSkim.Scan.Phrase
import SqlSkim.Scan.Place
import SqlSkim.Statement.Basic
import SqlSkim.Statement.Column
import SqlSkim.Statement.Command
import SqlSkim.Statement.Subquery
import SqlSkim.Statement.Table
import SqlSkim.Text.Alphanumeric
import SqlSkim.Text.Basic
import SqlSkim.Text.Blank
import SqlSkim.Text.Printable
import SqlSkim.Text.Quoted
import SqlSkim.Text.Range
import SqlSkim.Text.Similarity
import SqlSkim.Text.Uppercase
import SqlSkim.Text.Utf8
import SqlSkim.Toml.Basic
import SqlSkim.Toml.Document
import SqlSkim.Toml.Number
import SqlSkim.Toml.Quoted
import SqlSkim.Toml.Reader
import SqlSkim.Toml.Value
import SqlSkim.Proofs.Scan.Behind
import SqlSkim.Proofs.Scan.Group
import SqlSkim.Proofs.Scan.Outside
import SqlSkim.Proofs.Statement.Name
import SqlSkim.Proofs.Statement.Outside
import SqlSkim.Proofs.Scan.Inert
import SqlSkim.Proofs.Scan.Lexicon
import SqlSkim.Proofs.Scan.Listing
import SqlSkim.Proofs.Scan.Span
import SqlSkim.Proofs.Statement.Subquery
import SqlSkim.Proofs.Report.Single
import SqlSkim.Proofs.Statement.Plain
import SqlSkim.Proofs.Report.Selection
import SqlSkim.Proofs.Report.Change
import SqlSkim.Proofs.Comment.Unclosed
import SqlSkim.Proofs.Report.Warning
import SqlSkim.Proofs.Statement.Command
import SqlSkim.Proofs.Statement.Division
import SqlSkim.Proofs.Report.Subquery
import SqlSkim.Proofs.Spelling.Scan
import SqlSkim.Proofs.Spelling.Statement
import SqlSkim.Proofs.Statement.ClauseKeyword
import SqlSkim.Proofs.Checked.Look
import SqlSkim.Proofs.Checked.Comment
import SqlSkim.Proofs.Checked.Paren
import SqlSkim.Proofs.Checked.Phrase
import SqlSkim.Proofs.Checked.Cut
import SqlSkim.Proofs.Checked.Table
import SqlSkim.Proofs.Checked.Column
import SqlSkim.Proofs.Checked.Report
import SqlSkim.Proofs.Checked.Session
import SqlSkim.Proofs.Diagnostic.Mark
import SqlSkim.Proofs.Diagnostic.Paren
import SqlSkim.Proofs.Report.Accuracy
import SqlSkim.Proofs.Report.Coherence
import SqlSkim.Proofs.Report.OpenEnd
import SqlSkim.Proofs.Statement.Table
import SqlSkim.Proofs.Statement.Column
import SqlSkim.Proofs.Token.Walk
import SqlSkim.Proofs.Statement.Rejoin
import SqlSkim.Proofs.Token.Keyword
import SqlSkim.Proofs.Token.Separator
import SqlSkim.Proofs.Paren.Pair
import SqlSkim.Proofs.Paren.Fault
import SqlSkim.Proofs.Comment.Agreement
import SqlSkim.Proofs.Scan.Division
import SqlSkim.Proofs.Scan.Part
import SqlSkim.Proofs.Statement.SelectList
import SqlSkim.Proofs.Statement.SelectField
import SqlSkim.Proofs.Text.UpperWords
import SqlSkim.Proofs.Config.JoinKeyword
import SqlSkim.Proofs.Token.Written
import SqlSkim.Proofs.Statement.LeadingPhrase
import SqlSkim.Proofs.Statement.InsertList
import SqlSkim.Proofs.Text.Line
import SqlSkim.Proofs.Diagnostic.Line
import SqlSkim.Proofs.Report.Line
import SqlSkim.Proofs.Paren.Depth
import SqlSkim.Proofs.Scan.Rejoin
