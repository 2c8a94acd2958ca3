import Formwork.Binary64.Basic
import Formwork.Decimal.Layout
import Formwork.Text.Blank
import Formwork.Text.Letters
import Formwork.Text.Literal
import Formwork.Json.Basic
import Formwork.Json.Reader
import Formwork.Json.Writer
import Formwork.Design.Catalogue
import Formwork.Decimal.Reader
import Formwork.Document.Problem
import Formwork.Document.Scalar
import Formwork.Datum
import Formwork.Document.Decode
import Formwork.Outline
import Formwork.Source.Piece
import Formwork.Source.State
import Formwork.Source.Stmt
import Formwork.Source.Block
import Formwork.Source.Format
import Formwork.Source.Module
import Formwork.Design.Grid
import Formwork.Manifest
import Formwork.Text.Raw
import Formwork.Files.Path
import Formwork.Files.Tree
import Formwork.Journal
import Formwork.Binary64.Sort
import Formwork.Design.Edit
import Formwork.Document.Store
import Formwork.Session.Arrange
import Formwork.Session.Documents
import Formwork.Session.Edit
import Formwork.Session.Command
import Formwork.Stack
import Formwork.SettingsFile
import Formwork.Watcher
import Formwork.CommandLine.Arguments
import Formwork.CommandLine.Invocation
import Formwork.CommandLine.Run
import Formwork.Main
import Formwork.Proofs.Decimal.Interval
import Formwork.Proofs.Decimal.Shortest
import Formwork.Proofs.Json.Numerals
import Formwork.Proofs.Json.RoundTrip
import Formwork.Proofs.Json.LineEnds
import Formwork.Proofs.Json.Shrinking
import Formwork.Proofs.Json.Unified
import Formwork.Proofs.Document.Imported
import Formwork.Proofs.Document.Checked
import Formwork.Proofs.Document.Valid
import Formwork.Proofs.Document.RoundTrip
import Formwork.Proofs.Document.Store
import Formwork.Proofs.Session.Failure
import Formwork.Proofs.Session.Ids
import Formwork.Proofs.Source.Emptied
import Formwork.Proofs.Source.Plain
import Formwork.Proofs.Source.Contained
import Formwork.Proofs.Source.Unstacked
import Formwork.Proofs.Source.ByArea
import Formwork.Proofs.Source.Bare
import Formwork.Proofs.Source.Values
import Formwork.Proofs.Source.Accessed
import Formwork.Proofs.Source.Sections
import Formwork.Proofs.Source.Tidy
import Formwork.Proofs.Source.Lines
import Formwork.Proofs.Source.Headers
import Formwork.Proofs.Source.Names
import Formwork.Proofs.Source.Record
import Formwork.Proofs.Session.Current
import Formwork.Proofs.Files.Tree
import Formwork.Proofs.Watcher
import Formwork.Proofs.Document.Normal
import Formwork.Proofs.Outline
import Formwork.Proofs.Source.Brackets
import Formwork.Proofs.Source.Logical
import Formwork.Proofs.Source.Nested
import Formwork.Proofs.Source.Blocks
import Formwork.Proofs.Source.Depth
import Formwork.Proofs.Session.Bounds
import Formwork.Proofs.Session.Restored
import Formwork.Proofs.Session.Selection
import Formwork.Proofs.Design.PaintOrder
import Formwork.Proofs.Manifest.Entries
import Formwork.Proofs.Text.Unquoted
import Formwork.Proofs.Source.TreeLiteral
import Formwork.Proofs.Source.Assignments
import Formwork.Proofs.Source.Shown
import Formwork.Proofs.Manifest.Agreement
import Formwork.Proofs.Files.Ways
import Formwork.Proofs.Files.Changes
import Formwork.Proofs.CommandLine.Outcomes
import Formwork.Proofs.CommandLine.Effects
import Formwork.Proofs.CommandLine.Printed
import Formwork.Proofs.CommandLine.Addition
import Formwork.Proofs.CommandLine.Creation
import Formwork.Proofs.CommandLine.Files
import Formwork.Proofs.Regeneration
import Formwork.Proofs.Files.Refusal
import Formwork.Proofs.Unreported
import Formwork.Proofs.Session.Replacement
import Formwork.Proofs.CommandLine.Escape
import Formwork.Proofs.Polling
import Formwork.Proofs.Text.Enclosed
import Formwork.Proofs.Source.Comments
import Formwork.Proofs.Source.Words
import Formwork.Proofs.Source.Supplies
import Formwork.Proofs.Source.Introduced
import Formwork.Proofs.Outline.Listing
import Formwork.Proofs.Outline.OpenLevels
import Formwork.Proofs.Source.TreeGrammar
import Formwork.Proofs.Session.Stacking
import Formwork.Proofs.Binary64.Sort
import Formwork.Proofs.Binary64.Value
import Formwork.Proofs.Session.Arrangement
import Formwork.Proofs.Session.Independence
import Formwork.Proofs.Session.Distribution
import Formwork.Proofs.Session.Options
import Formwork.Proofs.Settings
import Formwork.Proofs.Source.Formats
import Formwork.Proofs.Source.WindowSize
import Formwork.Proofs.Source.Snapshot
import Formwork.Proofs.Source.Identities
import Formwork.Proofs.Outline.StackFold
import Formwork.Proofs.Outline.Memory
import Formwork.Proofs.Binary64.Rounding
import Formwork.Proofs.Binary64.RoundAway
import Formwork.Proofs.Design.Snapping
import Formwork.Proofs.Text.SignPairs
import Formwork.Proofs.Source.Signs
