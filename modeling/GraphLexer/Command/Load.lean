/-
What a command needs before it can do its work: a grammar from a file, from the standard input or from
the bundled ones, and an input.

A `Host` gives access to files and to the standard input, in any monad. The path `-` stands for the
standard input, which can be read once only.
-/
import GraphLexer.Command.Basic
import GraphLexer.Grammar.File
import GraphLexer.Language.Basic

namespace GraphLexer

/-- The surroundings of the program. A file that cannot be read or written gives the reason. -/
structure Host (m : Type → Type) where
  fetch : String → m (Except String (List UInt8))
  fetchInput : m (Except String (List UInt8))
  store : String → List UInt8 → m (Except String Unit)
  outputIsTerminal : Bool
  errorsAreTerminal : Bool

/-- Why a command cannot begin its work. -/
inductive LoadError where
  | missingGrammar
  | grammarTwice
  | missingInput
  /-- grammar and input would both be the standard input -/
  | bothStdin
  | unknownLanguage (name : String)
  | unreadable (path reason : String)
  | unreadableInput (reason : String)
  | grammar (label : String) (e : GrammarError)
  | graph (e : GraphError)
  deriving DecidableEq, Repr

def LoadError.message : LoadError → String
  | missingGrammar => "grammar is required: use positional argument or -l/--lang"
  | grammarTwice => "use either a grammar file or -l/--lang, not both"
  | missingInput => "input is required: use positional argument or -s/--source"
  | bothStdin => "grammar and input cannot both be from stdin"
  | unknownLanguage name => "unknown language '" ++ name ++ "' (run 'glex langs' for the full list)"
  | unreadable path reason => "failed to read '" ++ path ++ "': " ++ reason
  | unreadableInput reason => "failed to read stdin: " ++ reason
  | grammar label e => "invalid grammar '" ++ label ++ "': " ++ e.message
  | graph e => e.message

/-- A grammar, and what messages call it. -/
structure LoadedGrammar where
  label : String
  grammar : Grammar

/-- The path that stands for the standard input. -/
def stdinPath : String := "-"

def pathLabel (path : String) : String :=
  if path = stdinPath then "<stdin>" else path

namespace Host

variable {m : Type → Type} [Monad m]

def bytes (h : Host m) (path : String) : ExceptT LoadError m (List UInt8) :=
  if path = stdinPath then do
    match ← h.fetchInput with
    | .ok bytes => pure bytes
    | .error reason => throw (.unreadableInput reason)
  else do
    match ← h.fetch path with
    | .ok bytes => pure bytes
    | .error reason => throw (.unreadable path reason)

def loadGrammar (h : Host m) (source : GrammarSource) : ExceptT LoadError m LoadedGrammar :=
  match source.path, source.lang with
  | some _, some _ => throw .grammarTwice
  | none, none => throw .missingGrammar
  | none, some name =>
    match Language.find? name with
    | some l => pure ⟨l.name, l.grammar⟩
    | none => throw (.unknownLanguage name)
  | some path, none => do
    match Grammar.ofFile path (← h.bytes path) with
    | .ok g => pure ⟨pathLabel path, g⟩
    | .error e => throw (.grammar (pathLabel path) e)

/-- The input of a task. A file has to be UTF-8, while faults in the standard input are replaced. -/
def loadInput (h : Host m) (task : Task) : ExceptT LoadError m String :=
  match task.input.text, task.input.path with
  | some text, _ => pure text
  | none, none => throw .missingInput
  | none, some path =>
    if path = stdinPath ∧ task.grammar.path = some stdinPath then throw .bothStdin
    else do
      let bytes ← h.bytes path
      if path = stdinPath then pure (Text.decodeLossy bytes)
      else
        match Text.ofUtf8? bytes with
        | some text => pure text
        | none => throw (.unreadable path "stream did not contain valid UTF-8")

def prepare (h : Host m) (task : Task) : ExceptT LoadError m (Graph × String) := do
  let loaded ← h.loadGrammar task.grammar
  let input ← h.loadInput task
  match Graph.ofGrammar loaded.grammar with
  | .ok graph => pure (graph, input)
  | .error e => throw (.graph e)

end Host

end GraphLexer
