import GraphLexer.Attempt.Failure
import GraphLexer.Attempt.Result
import GraphLexer.Attempt.Visit
import GraphLexer.Backend.Basic
import GraphLexer.Backend.FlatResult
import GraphLexer.Backend.Session
import GraphLexer.Command.Arguments
import GraphLexer.Command.Basic
import GraphLexer.Command.Load
import GraphLexer.Command.Run
import GraphLexer.Command.Usage
import GraphLexer.Evaluator
import GraphLexer.Finding
import GraphLexer.Grammar.Basic
import GraphLexer.Grammar.Binary
import GraphLexer.Grammar.Document
import GraphLexer.Grammar.File
import GraphLexer.Grammar.Listing
import GraphLexer.Grammar.Node
import GraphLexer.Grammar.Repetition
import GraphLexer.Graph.Basic
import GraphLexer.Graph.Lower
import GraphLexer.Json.Reader
import GraphLexer.Json.Skip
import GraphLexer.Json.Value
import GraphLexer.Language.AyaGrammar
import GraphLexer.Language.Basic
import GraphLexer.Language.RegexGrammar
import GraphLexer.Lint
import GraphLexer.Main
import GraphLexer.NameTable
import GraphLexer.Palette
import GraphLexer.Pattern.CharSet
import GraphLexer.Pattern.Parse
import GraphLexer.Pattern.Regex
import GraphLexer.Proofs.Attempt.Bounds
import GraphLexer.Proofs.Attempt.Clean
import GraphLexer.Proofs.Attempt.Credit
import GraphLexer.Proofs.Attempt.Invariant
import GraphLexer.Proofs.Attempt.Inversion
import GraphLexer.Proofs.Attempt.Log
import GraphLexer.Proofs.Attempt.Loop
import GraphLexer.Proofs.Attempt.Moved
import GraphLexer.Proofs.Attempt.Named
import GraphLexer.Proofs.Attempt.Perform
import GraphLexer.Proofs.Attempt.Productive
import GraphLexer.Proofs.Attempt.Refinement
import GraphLexer.Proofs.Attempt.Result
import GraphLexer.Proofs.Attempt.Rounds
import GraphLexer.Proofs.Attempt.Spin
import GraphLexer.Proofs.Attempt.Ticks
import GraphLexer.Proofs.Attempt.Watch
import GraphLexer.Proofs.Backend
import GraphLexer.Proofs.Backend.Number
import GraphLexer.Proofs.Backend.Session
import GraphLexer.Proofs.Command
import GraphLexer.Proofs.Evaluator.Accounting
import GraphLexer.Proofs.Evaluator.Attempts
import GraphLexer.Proofs.Evaluator.Covering
import GraphLexer.Proofs.Evaluator.Cut
import GraphLexer.Proofs.Evaluator.Defined
import GraphLexer.Proofs.Evaluator.Limits
import GraphLexer.Proofs.Evaluator.Log
import GraphLexer.Proofs.Evaluator.Nesting
import GraphLexer.Proofs.Evaluator.Suffix
import GraphLexer.Proofs.Evaluator.Termination
import GraphLexer.Proofs.Evaluator.Watch
import GraphLexer.Proofs.Evaluator.Within
import GraphLexer.Proofs.Finding
import GraphLexer.Proofs.Grammar.Binary
import GraphLexer.Proofs.Grammar.Control
import GraphLexer.Proofs.Grammar.Document
import GraphLexer.Proofs.Grammar.File
import GraphLexer.Proofs.Grammar.States
import GraphLexer.Proofs.Grammar.Truncated
import GraphLexer.Proofs.Graph.Accepting
import GraphLexer.Proofs.Graph.Arena
import GraphLexer.Proofs.Graph.Builder
import GraphLexer.Proofs.Graph.Consuming
import GraphLexer.Proofs.Graph.Covering
import GraphLexer.Proofs.Graph.Dangling
import GraphLexer.Proofs.Graph.Interpreter
import GraphLexer.Proofs.Graph.Layout
import GraphLexer.Proofs.Graph.Names
import GraphLexer.Proofs.Graph.Preorder
import GraphLexer.Proofs.Graph.Simulation
import GraphLexer.Proofs.Graph.Uncommitted
import GraphLexer.Proofs.Json.Control
import GraphLexer.Proofs.Json.Scalar
import GraphLexer.Proofs.Json.Truncated
import GraphLexer.Proofs.Json.Value
import GraphLexer.Proofs.Language.Covering
import GraphLexer.Proofs.Language.Termination
import GraphLexer.Proofs.Lint
import GraphLexer.Proofs.Lint.Stops
import GraphLexer.Proofs.Listing
import GraphLexer.Proofs.NameTable
import GraphLexer.Proofs.Pattern.Chars
import GraphLexer.Proofs.Pattern.Nullable
import GraphLexer.Proofs.Pattern.Plain
import GraphLexer.Proofs.Report
import GraphLexer.Proofs.Source
import GraphLexer.Proofs.Source.Boundary
import GraphLexer.Proofs.Source.Exact
import GraphLexer.Proofs.Tag.Cover
import GraphLexer.Proofs.Tag.Flat
import GraphLexer.Proofs.Tag.Forest
import GraphLexer.Proofs.Tag.Layers
import GraphLexer.Proofs.Tag.Maps
import GraphLexer.Proofs.Tag.Places
import GraphLexer.Proofs.Tag.Walk
import GraphLexer.Proofs.Text.Bytes
import GraphLexer.Proofs.Text.Lines
import GraphLexer.Proofs.Text.Units
import GraphLexer.Proofs.Text.Utf8
import GraphLexer.Proofs.Trace
import GraphLexer.Proofs.Wire
import GraphLexer.Report
import GraphLexer.Source
import GraphLexer.Tag.Basic
import GraphLexer.Tag.Flat
import GraphLexer.Tag.Listing
import GraphLexer.Text.Units
import GraphLexer.Text.Utf8
import GraphLexer.Tokenized.Document
import GraphLexer.Trace
import GraphLexer.Unicode.CategoryTable
import GraphLexer.Unicode.FoldingTable
import GraphLexer.Unicode.Property
import GraphLexer.Unicode.PropertyTable
import GraphLexer.Unicode.Ranges
import GraphLexer.Unicode.ScriptTable
import GraphLexer.Unicode.WordTable
import GraphLexer.Wire
