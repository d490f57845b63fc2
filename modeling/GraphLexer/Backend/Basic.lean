/-
The engine as a backend: grammars are loaded, known from then on by a handle, and evaluated with
results in flat form. Handles are given in order, from 0 on, and only to grammars that load.
-/
import GraphLexer.Backend.FlatResult
import GraphLexer.Evaluator
import GraphLexer.Grammar.Binary
import GraphLexer.Graph.Lower

namespace GraphLexer

/-- Why a backend does not answer. -/
inductive BackendError where
  | decode (e : GrammarError)
  | graph (e : GraphError)
  | unknownModel (handle : Nat)
  deriving DecidableEq, Repr

def BackendError.message : BackendError → String
  | .decode e => "failed to decode grammar: " ++ e.message
  | .graph e => e.message
  | .unknownModel handle => "unknown model handle " ++ toString handle

/-- The graphs of the loaded grammars; a handle is a position. -/
structure Backend where
  models : List Graph

namespace Backend

def empty : Backend :=
  ⟨[]⟩

def load (b : Backend) (g : Grammar) : Except BackendError (Backend × Nat) :=
  match Graph.ofGrammar g with
  | .ok graph => .ok (⟨b.models ++ [graph]⟩, b.models.length)
  | .error e => .error (.graph e)

def loadBinary (b : Backend) (bytes : List UInt8) : Except BackendError (Backend × Nat) :=
  match Grammar.ofBinary bytes with
  | .ok g => b.load g
  | .error e => .error (.decode e)

def model (b : Backend) (handle : Nat) : Except BackendError Graph :=
  match b.models[handle]? with
  | some graph => .ok graph
  | none => .error (.unknownModel handle)

def tagNames (b : Backend) (handle : Nat) : Except BackendError (List (Nat × String)) :=
  (b.model handle).map fun graph => graph.tags.entries

def stateNames (b : Backend) (handle : Nat) : Except BackendError (List (Nat × String)) :=
  (b.model handle).map fun graph => graph.states.entries

/-- An outcome in flat form, by the tables of a graph. -/
def flatOutcome (g : Graph) : Outcome → FlatResult
  | .matched len tags =>
    ⟨len, FlatTag.flatten (fun name => (g.tags.find? name).getD FlatResult.noIndex) tags, none⟩
  | .noMatch => .rejected
  | .failed e =>
    ⟨0, [], some ⟨e.kind.flat, e.message,
      e.tagStack.map fun name => (g.tags.find? name).getD FlatResult.noIndex,
      e.stateStack.map fun name => (g.states.find? name).getD FlatResult.noIndex,
      e.committedInput⟩⟩

/-- The name under which a state is evaluated. A number that is not in use is not a name of its own,
    but is evaluated under its digits after a number sign. -/
def entryName (g : Graph) (state : Nat) : String :=
  (g.states.name? state).getD ("#" ++ toString state)

/-- One attempt from the state of a number, unless it does not end. -/
def evaluate (b : Backend) (handle state : Nat) (input : String) (ticks : UInt32) :
    Except BackendError (Option FlatResult) :=
  (b.model handle).map fun graph =>
    let e : Evaluator := ⟨graph, entryName graph state, ⟨ticks, Limits.default.depth⟩⟩
    (e.evaluate input).map (flatOutcome graph)

end Backend

end GraphLexer
