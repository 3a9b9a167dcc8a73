import IssueQuery.Help.Plain
import IssueQuery.Main
import IssueQuery.Proofs.Sql.Columns
import IssueQuery.Query.Grammar
import IssueQuery.Query.Meaning
import IssueQuery.Query.Printer
import IssueQuery.Query.Shape
import IssueQuery.Proofs.Filter.Lists
import IssueQuery.Proofs.Filter.Parts
import IssueQuery.Proofs.Filter.Statement
import IssueQuery.Proofs.Filter.Placeholders
import IssueQuery.Proofs.Filter.Reading
import IssueQuery.Proofs.Filter.Operands
import IssueQuery.Proofs.Sql.Names
import IssueQuery.Proofs.Filter.Selection
import IssueQuery.Proofs.Time.Stored
import IssueQuery.Proofs.Store.Creation
import IssueQuery.Proofs.Query.Lexing
import IssueQuery.Proofs.Query.Reading
import IssueQuery.Proofs.Query.Printed
import IssueQuery.Proofs.Query.Derivation
import IssueQuery.Proofs.Filter.Decoding
import IssueQuery.Proofs.Query.Fields
import IssueQuery.Proofs.Filter.Refusal
import IssueQuery.Proofs.Filter.Shape
import IssueQuery.Proofs.Store.Found
import IssueQuery.Proofs.Filter.Grouping
import IssueQuery.Proofs.Store.Chronology
import IssueQuery.Proofs.Store.Ordering
import IssueQuery.Command.Search
import IssueQuery.Proofs.Query.Gaps
import IssueQuery.Proofs.Store.Failures
import IssueQuery.Proofs.Store.Runs
import IssueQuery.Proofs.Query.Seams
import IssueQuery.Proofs.Store.Alternatives
import IssueQuery.Proofs.Filter.Numbering
import IssueQuery.Proofs.Query.Entries
import IssueQuery.Proofs.Filter.Appending
import IssueQuery.Proofs.Filter.Sharing
import IssueQuery.Proofs.Store.Corruption
import IssueQuery.Proofs.Store.Listing
import IssueQuery.Proofs.Text.Quoted
import IssueQuery.Proofs.Query.Requoted
import IssueQuery.Proofs.Text.Joined
import IssueQuery.Proofs.Filter.Explained
import IssueQuery.Proofs.Project.Paths
import IssueQuery.Proofs.Project.Trees
import IssueQuery.Proofs.Project.Leading
import IssueQuery.Proofs.Project.Growth
import IssueQuery.Proofs.Project.Discovery
import IssueQuery.Proofs.Project.Init
import IssueQuery.Proofs.Query.Groups
import IssueQuery.Proofs.Text.Lines
import IssueQuery.Proofs.Help.Painted
import IssueQuery.Proofs.Help.Command
import IssueQuery.Proofs.Text.Decimal
import IssueQuery.Proofs.Time.Loose
import IssueQuery.Proofs.Json.Reading
import IssueQuery.Proofs.Issue.Json
import IssueQuery.Proofs.Toml.Quoted
import IssueQuery.Proofs.Toml.Document
import IssueQuery.Proofs.Config.Saved
