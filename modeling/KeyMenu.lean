import KeyMenu.CommandLine.Dialogue
import KeyMenu.CommandLine.Option
import KeyMenu.CommandLine.Program
import KeyMenu.CommandLine.Request
import KeyMenu.Config.Basic
import KeyMenu.Config.Conflict
import KeyMenu.Config.Fault
import KeyMenu.Config.Load
import KeyMenu.Config.Location
import KeyMenu.Config.OfTree
import KeyMenu.Config.Printer
import KeyMenu.Display.Notice
import KeyMenu.Display.Screen
import KeyMenu.Display.View
import KeyMenu.Environment
import KeyMenu.Expr.Basic
import KeyMenu.Expr.Cycle
import KeyMenu.Expr.Expand
import KeyMenu.File.Disk
import KeyMenu.File.Path
import KeyMenu.Log.Level
import KeyMenu.Log.Record
import KeyMenu.Main
import KeyMenu.Navigation.Match
import KeyMenu.Navigation.Place
import KeyMenu.Proofs.Config.Conflict
import KeyMenu.Proofs.Config.Fault
import KeyMenu.Proofs.Config.Graph
import KeyMenu.Proofs.Config.RoundTrip
import KeyMenu.Proofs.Config.ToTree
import KeyMenu.Proofs.Config.Translation
import KeyMenu.Proofs.Config.WellFormed
import KeyMenu.Proofs.Display.View
import KeyMenu.Proofs.Expr.Acyclic
import KeyMenu.Proofs.Expr.Expansion
import KeyMenu.Proofs.Navigation.Feed
import KeyMenu.Proofs.Navigation.Match
import KeyMenu.Proofs.Navigation.Meaning
import KeyMenu.Proofs.Navigation.Reachable
import KeyMenu.Proofs.Navigation.Walk
import KeyMenu.Proofs.Run.Failure
import KeyMenu.Proofs.Session.Failure
import KeyMenu.Proofs.Session.Replay
import KeyMenu.Proofs.Text.Order
import KeyMenu.Proofs.Text.Span
import KeyMenu.Proofs.Tree.Completeness
import KeyMenu.Proofs.Tree.Gap
import KeyMenu.Proofs.Tree.Layout
import KeyMenu.Proofs.Tree.Leaf
import KeyMenu.Proofs.Tree.Reading
import KeyMenu.Proofs.Tree.Rule
import KeyMenu.Proofs.Tree.Spacing
import KeyMenu.Proofs.Tree.Spelling
import KeyMenu.Proofs.Tree.Token
import KeyMenu.Proofs.Tree.Unplaced
import KeyMenu.Run.Act
import KeyMenu.Run.CallLine
import KeyMenu.Run.Command
import KeyMenu.Run.Failure
import KeyMenu.Run.Variables
import KeyMenu.Session.Basic
import KeyMenu.Session.Policy
import KeyMenu.Sh.Assignment
import KeyMenu.Sh.Braces
import KeyMenu.Sh.Builtin
import KeyMenu.Sh.Builtin.Basic
import KeyMenu.Sh.Builtin.Declaring
import KeyMenu.Sh.Builtin.Directory
import KeyMenu.Sh.Builtin.Input
import KeyMenu.Sh.Builtin.Setting
import KeyMenu.Sh.Builtin.Waiting
import KeyMenu.Sh.Calculation
import KeyMenu.Sh.Calendar
import KeyMenu.Sh.Calendar.Reader
import KeyMenu.Sh.Command
import KeyMenu.Sh.Condition
import KeyMenu.Sh.Decimal
import KeyMenu.Sh.Digits
import KeyMenu.Sh.Edit.Editing
import KeyMenu.Sh.Edit.Script
import KeyMenu.Sh.Elements
import KeyMenu.Sh.Field
import KeyMenu.Sh.Launch
import KeyMenu.Sh.Listing
import KeyMenu.Sh.Lookup
import KeyMenu.Sh.Mode
import KeyMenu.Sh.Naming
import KeyMenu.Sh.Octet
import KeyMenu.Sh.Output
import KeyMenu.Sh.Parameter
import KeyMenu.Sh.Pattern
import KeyMenu.Sh.Process
import KeyMenu.Sh.Quoting
import KeyMenu.Sh.Reckoning
import KeyMenu.Sh.Redirection
import KeyMenu.Sh.Regular
import KeyMenu.Sh.Regular.Reader
import KeyMenu.Sh.Rules.Datum
import KeyMenu.Sh.Rules.Reader
import KeyMenu.Sh.Rules.Run
import KeyMenu.Sh.Rules.Running
import KeyMenu.Sh.Rules.Syntax
import KeyMenu.Sh.Run
import KeyMenu.Sh.Signal
import KeyMenu.Sh.Snippet.Find
import KeyMenu.Sh.Snippet.Library.Holder
import KeyMenu.Sh.Snippet.Library.Outside
import KeyMenu.Sh.Snippet.Library.Value
import KeyMenu.Sh.Snippet.Machine
import KeyMenu.Sh.Snippet.Place
import KeyMenu.Sh.Snippet.Program
import KeyMenu.Sh.Snippet.Reader
import KeyMenu.Sh.Snippet.Run
import KeyMenu.Sh.Snippet.Scalar
import KeyMenu.Sh.Snippet.Syntax
import KeyMenu.Sh.Snippet.Token
import KeyMenu.Sh.Start
import KeyMenu.Sh.State
import KeyMenu.Sh.Store
import KeyMenu.Sh.Token
import KeyMenu.Sh.Tool
import KeyMenu.Sh.Tool.Archive
import KeyMenu.Sh.Tool.Basic
import KeyMenu.Sh.Tool.Compare
import KeyMenu.Sh.Tool.Digest
import KeyMenu.Sh.Tool.Encoding
import KeyMenu.Sh.Tool.File
import KeyMenu.Sh.Tool.Find
import KeyMenu.Sh.Tool.Line
import KeyMenu.Sh.Tool.Look
import KeyMenu.Sh.Tool.Packed
import KeyMenu.Sh.Tool.Search
import KeyMenu.Sh.Tool.Settings
import KeyMenu.Sh.Tool.Sort
import KeyMenu.Sh.Tool.Stream
import KeyMenu.Sh.Tool.Value
import KeyMenu.Sh.Word
import KeyMenu.Sh.World
import KeyMenu.Sh.Wrapper
import KeyMenu.Shell.Basic
import KeyMenu.Shell.Choice
import KeyMenu.Table
import KeyMenu.Terminal.Key
import KeyMenu.Text.Basic
import KeyMenu.Text.Blank
import KeyMenu.Text.Enclosed
import KeyMenu.Text.Encoding
import KeyMenu.Text.Numeral
import KeyMenu.Text.Printable
import KeyMenu.Text.Quoted
import KeyMenu.Text.Words
import KeyMenu.Tree.Basic
import KeyMenu.Tree.Cursor
import KeyMenu.Tree.Grammar
import KeyMenu.Tree.Rule
import KeyMenu.Tree.Spelling
import KeyMenu.Tree.Token
import KeyMenu.Proofs.Navigation.Journey
import KeyMenu.Proofs.Run.Launch
import KeyMenu.Proofs.Session.Launch
import KeyMenu.Proofs.Config.Reordered
import KeyMenu.Proofs.Navigation.Reordered
import KeyMenu.Proofs.Display.Reordered
import KeyMenu.Proofs.Session.Reordered
import KeyMenu.Proofs.Tree.Stray
import KeyMenu.Proofs.Session.Values
import KeyMenu.Proofs.Session.Turn
import KeyMenu.Proofs.File.Disk
import KeyMenu.Proofs.CommandLine.Exit
import KeyMenu.Proofs.Text.Encoding
import KeyMenu.Proofs.Tree.Newline
import KeyMenu.Proofs.Config.Strings
import KeyMenu.Proofs.Config.SaveLoad
import KeyMenu.Proofs.Expr.Cycle
import KeyMenu.Proofs.Expr.Meaning
import KeyMenu.Proofs.Navigation.Position
import KeyMenu.Proofs.Text.Line
import KeyMenu.Proofs.Tree.Closure
import KeyMenu.Proofs.Tree.Within
import KeyMenu.Proofs.Tree.Failure
import KeyMenu.Proofs.Display.Reachable
import KeyMenu.Proofs.Run.Values
import KeyMenu.Proofs.Session.Echo
import KeyMenu.Proofs.Tree.Moved
import KeyMenu.Proofs.Tree.ShellLine
import KeyMenu.Proofs.Tree.Found
import KeyMenu.Proofs.Shell.Sources
import KeyMenu.Proofs.Config.Comparison
import KeyMenu.Proofs.Tree.Quoting
import KeyMenu.Proofs.Display.Lines
import KeyMenu.Proofs.Session.Editing
import KeyMenu.Proofs.Navigation.Trichotomy
