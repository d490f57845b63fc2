/-
The commands of the program, each with what was asked for on the command line.
-/
import GraphLexer.Attempt.Visit
import GraphLexer.Trace

namespace GraphLexer

/-- When output is coloured. -/
inductive ColorChoice where
  /-- on a terminal only -/
  | auto
  | always
  | never
  deriving DecidableEq, Repr

/-- Whether to colour, with or without a terminal. -/
def ColorChoice.resolve (terminal : Bool) : ColorChoice → Bool
  | auto => terminal
  | always => true
  | never => false

/-- The forms in which a grammar is shown. -/
inductive DumpFormat where
  | text
  | json
  | binary
  deriving DecidableEq, Repr

/-- Where a grammar comes from: a file or a bundled language. A grammar needs exactly one of them. -/
structure GrammarSource where
  path : Option String
  lang : Option String
  deriving DecidableEq, Repr

/-- Where an input comes from: a file or the text itself, which goes before a file. -/
structure InputSource where
  path : Option String
  text : Option String
  deriving DecidableEq, Repr

/-- What is to be evaluated. The entry is the root of the grammar unless stated. -/
structure Task where
  grammar : GrammarSource
  input : InputSource
  entry : Option String
  limits : Limits
  deriving DecidableEq, Repr

/-- The commands. -/
inductive Command where
  /-- all attempts on an input, as JSON -/
  | eval (task : Task) (compact : Bool) (color : ColorChoice)
  /-- one attempt, node by node -/
  | trace (task : Task) (verbose : Nat) (color : ColorChoice)
  /-- a grammar in one of its forms, on the output or into a file -/
  | dump (grammar : GrammarSource) (format : DumpFormat) (output : Option String) (color : ColorChoice)
  /-- what is wrong with a grammar -/
  | check (grammar : GrammarSource) (color : ColorChoice)
  /-- the bundled languages -/
  | langs
  deriving DecidableEq, Repr

/-- The verbosity for a number of requests to be verbose. -/
def Verbosity.ofCount : Nat → Verbosity
  | 0 => .default
  | 1 => .verbose
  | _ => .veryVerbose

namespace Command

/-- Where the grammar of a command comes from. -/
def grammar? : Command → Option GrammarSource
  | eval task _ _ => some task.grammar
  | trace task _ _ => some task.grammar
  | dump grammar _ _ _ => some grammar
  | check grammar _ => some grammar
  | langs => none

/-- Whether the output of a command is coloured. What goes into a file is not. -/
def colored (terminal : Bool) : Command → Bool
  | eval _ _ color => color.resolve terminal
  | trace _ _ color => color.resolve terminal
  | dump _ _ output color => output.isNone && color.resolve terminal
  | check _ color => color.resolve terminal
  | langs => false

end Command

end GraphLexer
