/-
Reports: a failure, or input that is left over, shown against the input.

A report marks spans of the input in bytes: the primary one where matching stopped, and the input that
a failing attempt had taken. The engine counts units; an offset within a character goes to its end.
-/
import GraphLexer.Attempt.Failure
import GraphLexer.Palette
import GraphLexer.Grammar.Node
import GraphLexer.Text.Units

namespace GraphLexer

/-- A part of a text, in bytes. -/
structure ByteSpan where
  start : Nat
  stop : Nat
  deriving DecidableEq, Repr

/-- A report on an input. -/
structure Report where
  input : String
  path : Option String
  heading : String
  label : String
  primary : ByteSpan
  committed : Option ByteSpan
  tail : List String
  deriving DecidableEq, Repr

namespace Report

/-- The character at a byte offset, or nothing at the end of the text. -/
def point (s : String) (start : Nat) : ByteSpan :=
  match Text.dropBytes start s.toList with
  | [] => ⟨start, start⟩
  | c :: _ => ⟨start, start + c.utf8Size⟩

/-- Names from the outermost to the innermost one. -/
def chain (names : List String) : String :=
  if names.isEmpty then "(none)" else " > ".intercalate names

/-- The report of a failure of the attempt that started at `offset`. -/
def failure (palette : Palette) (input : String) (path : Option String) (offset : Nat) (e : EvalError) :
    Report :=
  let start := Text.byteOffset input offset
  let stall := Text.byteOffset input (offset + Text.length e.committedInput)
  { input := input
    path := path
    heading := "error: " ++ e.message
    label := e.kind.name
    primary := point input stall
    committed := if start < stall then some ⟨start, stall⟩ else none
    tail := [
      palette.faint "state trace:" ++ " " ++ chain e.stateStack,
      palette.faint "tag trace:" ++ " " ++ chain e.tagStack,
      palette.faint "committed input:" ++ " \"" ++ palette.text (Text.escape e.committedInput) ++ "\""] }

/-- The report of input that is left over at `offset`. -/
def unmatched (input : String) (path : Option String) (offset : Nat) : Report :=
  { input := input
    path := path
    heading := "warning: input not fully consumed (" ++ toString offset ++ " of "
      ++ toString (Text.length input) ++ " units)"
    label := "no state accepts the input here"
    primary := point input (Text.byteOffset input offset)
    committed := none
    tail := [] }

/-- The line and column after `bytes` bytes of what is left of a text, both counted from 1. A line
    break belongs to the line it ends, and one at the end of the text begins no other line. -/
def lineColumn (line column bytes : Nat) : List Char → Nat × Nat
  | [] => (line, column)
  | c :: cs =>
    if bytes = 0 then (line, column)
    else if c = '\n' ∧ ¬ cs.isEmpty then lineColumn (line + 1) 1 (bytes - c.utf8Size) cs
    else lineColumn line (column + 1) (bytes - c.utf8Size) cs

/-- Where the primary span starts: path, line and column. -/
def location (r : Report) : Option String :=
  r.path.map fun path =>
    let (line, column) := lineColumn 1 1 r.primary.start r.input.toList
    path ++ ":" ++ toString line ++ ":" ++ toString column

def title (r : Report) : String :=
  String.ofList (r.heading.toList.takeWhile (· != '\n'))

def render (r : Report) : String :=
  let place := match r.location with
    | some place => " --> " ++ place
    | none => " -->"
  let committed := match r.committed with
    | some span => [" = committed here: " ++ Text.escape (Text.bytesBetween r.input span.start span.stop)]
    | none => []
  "\n".intercalate ([r.heading, place, " = " ++ r.label] ++ committed ++ r.tail)

end Report

end GraphLexer
