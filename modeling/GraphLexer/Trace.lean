/-
Traces: the events of an attempt as lines of text, indented by the visits that are open.

  * by default only states, invocations and tags have lines;
  * a verbose trace also has matchers and the rounds of invocations;
  * a very verbose one shows the input that is left where a visit begins.

A line starts with the position, aligned to the right, and a sign for the event.
-/
import GraphLexer.Attempt.Result
import GraphLexer.Graph.Basic
import GraphLexer.Palette
import GraphLexer.Text.Units

namespace GraphLexer

/-- How much a trace shows. -/
inductive Verbosity where
  | default
  | verbose
  | veryVerbose
  deriving DecidableEq, Repr

namespace Trace

/-- What the lines of a trace are made from. -/
structure Style where
  graph : Graph
  units : List UInt16
  verbosity : Verbosity
  palette : Palette

/-- The visits that are open, innermost first, with whether each has a line of its own; and how many
    have one. -/
structure Cursor where
  shown : List Bool
  depth : Nat
  deriving DecidableEq, Repr

def Cursor.start : Cursor :=
  ⟨[], 0⟩

def Cursor.push (c : Cursor) (visible : Bool) : Cursor :=
  ⟨visible :: c.shown, if visible then c.depth + 1 else c.depth⟩

def Cursor.pop (c : Cursor) : Bool × Cursor :=
  match c.shown with
  | [] => (false, c)
  | visible :: below => (visible, ⟨below, if visible then c.depth - 1 else c.depth⟩)

/-- The number of units that a preview shows. -/
def previewLength : Nat := 16

namespace Style

/-- Whether a node is of a kind that every trace shows. -/
def isVisible (s : Style) (node : Nat) : Bool :=
  if s.verbosity = .default then
    match (s.graph.node? node).map GraphNode.step with
    | some (.state _) | some (.subState _ _) | some (.applyTag _) => true
    | _ => false
  else true

def describe (s : Style) (node : Nat) : String :=
  match s.graph.node? node with
  | none => ""
  | some n =>
    let written := s.graph.describe n.step
    written.kindName ++ " " ++ s.palette.name written.contentLine

def width (s : Style) : Nat :=
  (toString s.units.length).length

def position (s : Style) (pos : Nat) : String :=
  let digits := toString pos
  "".pushn ' ' (s.width - digits.length) ++ digits

/-- A line with its position, sign and content. -/
def line (s : Style) (depth : Nat) (pos sign content : String) : String :=
  s.palette.faint pos ++ " " ++ "".pushn ' ' (2 * depth) ++ sign ++ " " ++ content

def preview (s : Style) (pos : Nat) : String :=
  let rest := s.units.drop pos
  Text.escape (Text.ofUnits (rest.take previewLength))
    ++ if previewLength < rest.length then "…" else ""

def enterLine (s : Style) (depth node pos : Nat) : String :=
  let shown := if s.verbosity = .veryVerbose then " " ++ s.palette.text (s.preview pos) else ""
  s.line depth (s.position pos) "▶" (s.describe node ++ shown)

def step (s : Style) (c : Cursor) : Event → Cursor × List String
  | .enter node pos =>
    let visible := s.isVisible node
    (c.push visible, if visible then [s.enterLine c.depth node pos] else [])
  | .matched node pos len =>
    let (visible, c) := c.pop
    let range := s.palette.faint (toString pos ++ ".." ++ toString (pos + len))
    (c, if visible then [s.line c.depth (s.position pos) "●" (s.describe node ++ " " ++ range)] else [])
  | .rejected node pos =>
    let (visible, c) := c.pop
    (c, if visible then [s.line c.depth (s.position pos) "○" (s.describe node)] else [])
  | .failed node pos kind =>
    let (visible, c) := c.pop
    let name := s.palette.red ++ kind.name ++ s.palette.reset
    (c, if visible then [s.line c.depth (s.position pos) "✗" (s.describe node ++ " " ++ name)] else [])
  | .repeated _ count consumed =>
    let rounds := s.palette.faint ("#" ++ toString count ++ " +" ++ toString consumed)
    (c, if s.verbosity = .default then [] else [s.line c.depth ("".pushn ' ' s.width) "↻" rounds])
  | .accepted _ _ _ => (c, [])

def linesFrom (s : Style) (c : Cursor) : List Event → List String
  | [] => []
  | e :: es =>
    let (c, ls) := s.step c e
    ls ++ linesFrom s c es

def lines (s : Style) (events : List Event) : List String :=
  s.linesFrom .start events

end Style

end Trace

end GraphLexer
