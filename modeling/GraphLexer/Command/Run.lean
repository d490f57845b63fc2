/-
What the commands do. `run` loads what a command needs and tells what is to be written and with which
status the program ends: 0 for success, 1 if input is left or findings are reported, 2 for a failure.

A command has no answer exactly when an evaluation does not end.
-/
import GraphLexer.Command.Load
import GraphLexer.Finding
import GraphLexer.Grammar.Listing
import GraphLexer.Report
import GraphLexer.Tag.Listing
import GraphLexer.Tokenized.Document

namespace GraphLexer

/-- What is written to the error stream. -/
inductive Notice where
  | lines (ls : List String)
  | report (r : Report)
  deriving DecidableEq, Repr

def Notice.render : Notice → String
  | lines ls => String.join (ls.map (· ++ "\n"))
  | report r => r.render ++ "\n"

/-- What a command comes to: the exit status and what is written to the two streams. -/
structure Output where
  status : Nat
  out : List UInt8
  notice : Notice
  deriving DecidableEq, Repr

namespace Output

def text (s : String) : Output :=
  ⟨0, Text.utf8 s, .lines []⟩

def error (message : String) : Output :=
  ⟨2, [], .lines ["error: " ++ message]⟩

end Output

namespace Task

def evaluator (task : Task) (graph : Graph) : Evaluator :=
  ⟨graph, task.entry.getD graph.root, task.limits⟩

def inputLabel (task : Task) : String :=
  match task.input.path with
  | some path => pathLabel path
  | none => "<input>"

/-- All attempts on an input, as JSON, with a report unless everything was matched. -/
def evalOutput (task : Task) (isPretty : Bool) (palette : Palette) (graph : Graph) (input : String) :
    Option Output :=
  ((task.evaluator graph).evaluateAll input).map fun t =>
    let json := if isPretty then Json.pretty 0 t.toJson else Json.compact t.toJson
    let notice : Notice :=
      match t.lastError with
      | some e => .report (.failure palette input (some task.inputLabel) t.matchedLen e)
      | none =>
        if t.isComplete then .lines []
        else .report (.unmatched input (some task.inputLabel) t.matchedLen)
    ⟨t.exitCode, Text.utf8 (String.ofList json ++ "\n"), notice⟩

def traceOutput (task : Task) (verbosity : Verbosity) (palette : Palette) (graph : Graph)
    (input : String) : Option Output :=
  let (outcome, events) := (task.evaluator graph).evaluateTraced input
  let style : Trace.Style := ⟨graph, Text.units input, verbosity, palette⟩
  let lines := style.lines events ++ [palette.faint "---"]
  let out (more : List String) : List UInt8 :=
    Text.utf8 (String.join ((lines ++ more).map (· ++ "\n")))
  outcome.map fun
    | .matched len tags =>
      let total := "matched " ++ toString len ++ " of " ++ toString (Text.length input) ++ " units"
      ⟨0, out [Tag.listing palette (some input) tags, palette.faint total], .lines []⟩
    | .noMatch => ⟨1, out [], .lines ["no match"]⟩
    | .failed e => ⟨2, out [], .report (.failure palette input none 0 e)⟩

end Task

namespace LoadedGrammar

def dumpBytes (loaded : LoadedGrammar) (format : DumpFormat) (palette : Palette) : List UInt8 :=
  match format with
  | .text => Text.utf8 (loaded.grammar.listing palette)
  | .json => Text.utf8 (loaded.grammar.toJson ++ "\n")
  | .binary => loaded.grammar.toBinary

/-- The findings for a grammar, a line for each, or the sizes of a grammar without findings. -/
def checkOutput (loaded : LoadedGrammar) (palette : Palette) : Option Output :=
  loaded.grammar.findings.map fun found =>
    if found.isEmpty then
      .text (palette.green ++ "ok:" ++ palette.reset ++ " " ++ loaded.label ++ " ("
        ++ toString loaded.grammar.size ++ " states, " ++ toString loaded.grammar.nodeCount
        ++ " nodes)\n")
    else
      ⟨1, [], .lines (found.map fun f =>
        palette.red ++ loaded.label ++ ":" ++ palette.reset ++ " " ++ f.message)⟩

end LoadedGrammar

namespace Host

variable {m : Type → Type} [Monad m]

def isTerminal (h : Host m) : Bool :=
  h.outputIsTerminal && h.errorsAreTerminal

/-- Writes a grammar to the output or into a file. -/
def write (h : Host m) (path : Option String) (bytes : List UInt8) : m Output :=
  match path with
  | none => pure ⟨0, bytes, .lines []⟩
  | some path => do
    match ← h.store path bytes with
    | .ok () => pure ⟨0, [], .lines []⟩
    | .error reason => pure (.error ("failed to write output: " ++ reason))

def loaded {α : Type} (load : ExceptT LoadError m α) (next : α → m (Option Output)) :
    m (Option Output) := do
  match ← load.run with
  | .ok a => next a
  | .error e => pure (some (.error e.message))

def run (h : Host m) (c : Command) : m (Option Output) :=
  let palette := Palette.ofBool (c.colored h.isTerminal)
  match c with
  | .eval task compact _ =>
    loaded (h.prepare task) fun (graph, input) =>
      pure (task.evalOutput (h.outputIsTerminal && !compact) palette graph input)
  | .trace task verbose _ =>
    loaded (h.prepare task) fun (graph, input) =>
      pure (task.traceOutput (.ofCount verbose) palette graph input)
  | .dump grammar format output _ =>
    loaded (h.loadGrammar grammar) fun g => do
      pure (some (← h.write output (g.dumpBytes format palette)))
  | .check grammar _ =>
    loaded (h.loadGrammar grammar) fun g => pure (g.checkOutput palette)
  | .langs => pure (some (.text Language.listing))

end Host

end GraphLexer
