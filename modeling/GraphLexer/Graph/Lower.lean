/-
From grammars to graphs. A node is put at the end of the arena, without transitions; then each of its
trees is put there in turn, and the position of its root is added to the node. What is in the arena
already is not touched otherwise.

Names are numbered when they are met: first all defined states, then on the way through the nodes
whatever else is mentioned. The entries are filled in when all states are in the arena. The first pattern
that is refused ends the construction.
-/
import GraphLexer.Grammar.Basic
import GraphLexer.Graph.Basic
import GraphLexer.Pattern.Parse
import GraphLexer.Text.Units

namespace GraphLexer

/-- A pattern that is refused, and the state whose tree it is in. -/
structure GraphError where
  state : String
  pattern : String
  deriving DecidableEq, Repr

def GraphError.message (e : GraphError) : String :=
  "invalid regex /" ++ e.pattern ++ "/ in state '" ++ e.state ++ "': error parsing pattern 0"

namespace Graph

/-- The name tables on the way. -/
structure Names where
  states : NameTable
  tags : NameTable

/-- The step of a node, and the names with those it mentions. -/
def lowerNode (engine : Engine) (state : String) (names : Names) :
    Node → Except GraphError (Step × Names)
  | .state name =>
    let (states, i) := names.states.intern name
    .ok (.state i, { names with states := states })
  | .literal text => .ok (.literal text (Text.units text), names)
  | .unicode min max => .ok (.unicode min max, names)
  | .regex pattern =>
    match engine.compile (Text.view pattern) with
    | some matcher => .ok (.regex pattern matcher, names)
    | none => .error ⟨state, pattern⟩
  | .subState target repetition =>
    let (states, i) := names.states.intern target
    .ok (.subState i repetition, { names with states := states })
  | .applyTag tag =>
    let (tags, i) := names.tags.intern tag
    .ok (.applyTag i, { names with tags := tags })

end Graph

def GraphNode.goOn (node : GraphNode) (ids : List Nat) : GraphNode :=
  { node with transitions := node.transitions ++ ids }

/-- A graph on the way: the nodes and the names so far. -/
structure Builder where
  nodes : Array GraphNode
  names : Graph.Names

namespace Builder

/-- Nothing is in the arena, and the states of a grammar are numbered. -/
def ofGrammar (g : Grammar) : Builder :=
  ⟨#[], g.stateNames.foldl (fun states name => (states.intern name).1) .empty, .empty⟩

/-- Puts a node without transitions at the end of the arena. -/
def push (b : Builder) (commit : Bool) (step : Step) (names : Graph.Names) : Builder :=
  ⟨b.nodes.push ⟨commit, step, []⟩, names⟩

/-- Adds a transition to a node of the arena. -/
def link (b : Builder) (id next : Nat) : Builder :=
  { b with nodes := b.nodes.modify id (·.goOn [next]) }

/-- The number of a state, and the names with it. -/
def internState (b : Builder) (name : String) : Builder × Nat :=
  let (states, i) := b.names.states.intern name
  ({ b with names := { b.names with states := states } }, i)

mutual

/-- Puts a tree into the arena, and gives the position of its root. -/
def lower (engine : Engine) (state : String) (b : Builder) : Tree → Except GraphError (Builder × Nat)
  | ⟨commit, node, transitions⟩ =>
    match Graph.lowerNode engine state b.names node with
    | .error e => .error e
    | .ok (step, names) =>
      match lowerBelow engine state b.nodes.size (b.push commit step names) transitions with
      | .error e => .error e
      | .ok below => .ok (below, b.nodes.size)

/-- Puts trees into the arena, and adds their roots to the transitions of a node that is there. -/
def lowerBelow (engine : Engine) (state : String) (id : Nat) (b : Builder) :
    List Tree → Except GraphError Builder
  | [] => .ok b
  | t :: ts =>
    match lower engine state b t with
    | .error e => .error e
    | .ok (b, next) => lowerBelow engine state id (b.link id next) ts

end

/-- Puts the trees of states into the arena, each under its own name. After the entries `defined` of
    earlier states come those of these. -/
def lowerStates (engine : Engine) (b : Builder) (defined : List (Nat × Nat)) :
    List Tree → Except GraphError (Builder × List (Nat × Nat))
  | [] => .ok (b, defined)
  | t :: ts =>
    let name := t.stateName?.getD ""
    match lower engine name b t with
    | .error e => .error e
    | .ok (b, id) =>
      let (b, state) := b.internState name
      lowerStates engine b (defined ++ [(state, id)]) ts

end Builder

namespace Graph

/-- A place for each of `size` states, with the entries that are there. -/
def entryTable (size : Nat) (defined : List (Nat × Nat)) : Array (Option Nat) :=
  defined.foldl (fun entries (state, id) => entries.setIfInBounds state (some id))
    (Array.replicate size none)

/-- The graph of a grammar with the patterns of an engine, unless one of them is refused. -/
def build (engine : Engine) (g : Grammar) : Except GraphError Graph :=
  match Builder.lowerStates engine (.ofGrammar g) [] g.states with
  | .error e => .error e
  | .ok (b, defined) =>
    .ok ⟨b.nodes, b.names.states, b.names.tags, entryTable b.names.states.size defined, g.root⟩

/-- The graph of a grammar, unless one of its patterns is refused. -/
def ofGrammar (g : Grammar) : Except GraphError Graph :=
  build Regex.engine g

end Graph

end GraphLexer
