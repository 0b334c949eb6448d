import Mudline.Display.Entity
import Mudline.Display.Run
import Mudline.Expr.Eval
import Mudline.Expr.Lexeme
import Mudline.Expr.Syntax
import Mudline.Expr.Value
import Mudline.Fault
import Mudline.File
import Mudline.Formula.Eval
import Mudline.Formula.Function
import Mudline.Formula.Syntax
import Mudline.Invocation
import Mudline.Main
import Mudline.Markup.Reader
import Mudline.Markup.Token
import Mudline.Number.Binary
import Mudline.Number.Duration
import Mudline.Number.Numeral
import Mudline.Pattern
import Mudline.Program
import Mudline.Proofs.Display.Escaping
import Mudline.Proofs.Display.Joined
import Mudline.Proofs.Expr.Classes
import Mudline.Proofs.Expr.Comparison
import Mudline.Proofs.Expr.Connective
import Mudline.Proofs.Expr.Joining
import Mudline.Proofs.Expr.Lexing
import Mudline.Proofs.Expr.Literal
import Mudline.Proofs.Expr.Printing
import Mudline.Proofs.Fault
import Mudline.Proofs.Formula.Balance
import Mudline.Proofs.Formula.CallTree
import Mudline.Proofs.Formula.Failure
import Mudline.Proofs.Formula.ListEntry
import Mudline.Proofs.Formula.Nesting
import Mudline.Proofs.Formula.Operand
import Mudline.Proofs.Formula.Part
import Mudline.Proofs.Formula.Quoting
import Mudline.Proofs.Formula.Replacing
import Mudline.Proofs.Formula.Role
import Mudline.Proofs.Formula.Termination
import Mudline.Proofs.Invocation
import Mudline.Proofs.Markup.Alignment
import Mudline.Proofs.Markup.Boundary
import Mudline.Proofs.Markup.Bytes
import Mudline.Proofs.Markup.Canonical
import Mudline.Proofs.Markup.Cursor
import Mudline.Proofs.Markup.Forest
import Mudline.Proofs.Markup.RoundTrip
import Mudline.Proofs.Markup.Truncation
import Mudline.Proofs.Number.Order
import Mudline.Proofs.Script.Arguments
import Mudline.Proofs.Script.Braces
import Mudline.Proofs.Script.Bracketing
import Mudline.Proofs.Script.Branch
import Mudline.Proofs.Script.Condition
import Mudline.Proofs.Script.Counting
import Mudline.Proofs.Script.Dangling
import Mudline.Proofs.Script.Depth
import Mudline.Proofs.Script.ElseIf
import Mudline.Proofs.Script.Fault
import Mudline.Proofs.Script.Flat
import Mudline.Proofs.Script.Frame
import Mudline.Proofs.Script.Indexing
import Mudline.Proofs.Script.Invariant
import Mudline.Proofs.Script.Layout
import Mudline.Proofs.Script.Matching
import Mudline.Proofs.Script.Place
import Mudline.Proofs.Script.Placement
import Mudline.Proofs.Script.Provenance
import Mudline.Proofs.Script.Refinement
import Mudline.Proofs.Script.Requests
import Mudline.Proofs.Script.Restart
import Mudline.Proofs.Script.Return
import Mudline.Proofs.Script.Sharing
import Mudline.Proofs.Script.Skipping
import Mudline.Proofs.Script.Spelling
import Mudline.Proofs.Script.Structured
import Mudline.Proofs.Script.Substitution
import Mudline.Proofs.Session.Absence
import Mudline.Proofs.Session.Apart
import Mudline.Proofs.Session.Assembly
import Mudline.Proofs.Session.Hearing
import Mudline.Proofs.Session.History
import Mudline.Proofs.Session.Quiet
import Mudline.Proofs.Session.Record
import Mudline.Proofs.Session.Registry
import Mudline.Proofs.Session.Renumber
import Mudline.Proofs.Session.Rest
import Mudline.Proofs.Session.Schedule
import Mudline.Proofs.Session.Slices
import Mudline.Proofs.Session.Turn
import Mudline.Proofs.Session.Waits
import Mudline.Proofs.Settings.Lines
import Mudline.Proofs.Settings.Mistake
import Mudline.Proofs.Store
import Mudline.Proofs.Store.Edits
import Mudline.Proofs.Stream.Batch
import Mudline.Proofs.Stream.Boundary
import Mudline.Proofs.Stream.Creatures
import Mudline.Proofs.Stream.Markers
import Mudline.Proofs.Stream.Mirror
import Mudline.Proofs.Stream.Passage
import Mudline.Proofs.Text.Digits
import Mudline.Proofs.Text.Entries
import Mudline.Proofs.Text.Occurrences
import Mudline.Proofs.Text.Pieces
import Mudline.Proofs.Unicode.Lower
import Mudline.Regex.Class
import Mudline.Regex.Encoding
import Mudline.Regex.Escape
import Mudline.Regex.Footprint
import Mudline.Regex.Parser
import Mudline.Regex.Program
import Mudline.Regex.Property
import Mudline.Regex.Replace
import Mudline.Regex.Search
import Mudline.Regex.Simplify
import Mudline.Regex.Syntax
import Mudline.Script.Effect
import Mudline.Script.Folder
import Mudline.Script.Line
import Mudline.Script.Listing
import Mudline.Script.Reference
import Mudline.Script.Run
import Mudline.Script.State
import Mudline.Script.Statement
import Mudline.Session.Basic
import Mudline.Session.Task
import Mudline.Settings.Basic
import Mudline.Settings.Directive
import Mudline.Store
import Mudline.Stream.Command
import Mudline.Stream.Kind
import Mudline.Stream.Reader
import Mudline.Stream.Shown
import Mudline.Stream.State
import Mudline.Stream.Variable
import Mudline.Text.Basic
import Mudline.Text.Integer
import Mudline.Text.Quoted
import Mudline.Text.Search
import Mudline.Unicode.AgeTable
import Mudline.Unicode.Case
import Mudline.Unicode.CaseTable
import Mudline.Unicode.Category
import Mudline.Unicode.CategoryTable
import Mudline.Unicode.Charset
import Mudline.Unicode.Property
import Mudline.Unicode.PropertyTable
import Mudline.Unicode.Script
import Mudline.Unicode.ScriptTable
import Mudline.Unicode.Segment
