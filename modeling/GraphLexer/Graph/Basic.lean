/-
Graphs: grammars in the form in which they are evaluated. All nodes are in one arena and refer to each
other by position; states and tags are numbers of two name tables; literals are units and patterns are
ready to be matched.

`entries` has a place for each number of a state. It is empty where the state is mentioned but not
defined.
-/
import GraphLexer.Grammar.Node
import GraphLexer.NameTable
import GraphLexer.Pattern.Regex

namespace GraphLexer

/-- What a node does when it is evaluated. -/
inductive Step where
  | state (name : Nat)
  | literal (text : String) (units : List UInt16)
  | unicode (min max : Option UInt32)
  | regex (pattern : String) (matcher : Matcher)
  | subState (target : Nat) (repetition : Repetition)
  | applyTag (tag : Nat)

/-- A node of the arena. -/
structure GraphNode where
  commit : Bool
  step : Step
  transitions : List Nat

/-- Nodes, name tables and the entry nodes of the states, by their numbers. -/
structure Graph where
  nodes : Array GraphNode
  states : NameTable
  tags : NameTable
  entries : Array (Option Nat)
  root : String

namespace Graph

def empty : Graph :=
  ⟨#[], .empty, .empty, #[], ""⟩

def node? (g : Graph) (id : Nat) : Option GraphNode :=
  g.nodes[id]?

def entryOf (g : Graph) (state : Nat) : Option Nat :=
  (g.entries[state]?).join

def entry (g : Graph) (name : String) : Option Nat :=
  (g.states.find? name).bind g.entryOf

/-- The defined states by name, each with its entry node. -/
def entryPoints (g : Graph) : List (String × Nat) :=
  g.states.entries.filterMap fun (state, name) => (g.entryOf state).map fun id => (name, id)

def definedStates (g : Graph) : List String :=
  g.entryPoints.map (·.1)

def describe (g : Graph) : Step → Node
  | .state name => .state (g.states.name name)
  | .literal text _ => .literal text
  | .unicode min max => .unicode min max
  | .regex pattern _ => .regex pattern
  | .subState target repetition => .subState (g.states.name target) repetition
  | .applyTag tag => .applyTag (g.tags.name tag)

/-- The positions met on a walk through transitions, parents first, in at most `fuel` steps. -/
def walk (g : Graph) : Nat → List Nat → List Nat
  | 0, _ => []
  | _ + 1, [] => []
  | fuel + 1, id :: pending =>
    id :: walk g fuel (((g.node? id).map (·.transitions)).getD [] ++ pending)

/-- The positions of a tree of the arena, parents first. -/
def preorder (g : Graph) (id : Nat) : List Nat :=
  walk g g.nodes.size [id]

/-- The state that a node invokes without there being one. -/
def missing? (g : Graph) (id : Nat) : Option String :=
  match (g.node? id).map GraphNode.step with
  | some (.subState target _) => if (g.entryOf target).isNone then some (g.states.name target) else none
  | _ => none

/-- The references to states that are not defined: the referring state and the missing one, in the
    order in which they appear. An undefined root comes first, under the empty name. -/
def dangling (g : Graph) : List (String × String) :=
  (if (g.entry g.root).isNone then [("", g.root)] else [])
    ++ g.entryPoints.flatMap fun (name, id) =>
      ((g.preorder id).filterMap g.missing?).map fun missing => (name, missing)

end Graph

end GraphLexer
