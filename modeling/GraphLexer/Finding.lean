/-
What is wrong with a grammar: a pattern that is refused, states that are mentioned but not defined, and
patterns that the bundled grammar of patterns does not fully recognise.
-/
import GraphLexer.Lint

namespace GraphLexer

/-- One problem of a grammar. -/
inductive Finding where
  | build (e : GraphError)
  | undefinedRoot (root : String)
  | undefinedState (state missing : String)
  | pattern (state text : String) (issue : Issue)
  deriving DecidableEq, Repr

namespace Finding

def kindName : Finding → String
  | build _ => "Build"
  | undefinedRoot _ => "UndefinedRoot"
  | undefinedState _ _ => "UndefinedState"
  | pattern _ _ _ => "Pattern"

def message : Finding → String
  | build e => e.message
  | undefinedRoot root => "root state '" ++ root ++ "' is not defined"
  | undefinedState state missing =>
    "state '" ++ state ++ "' references undefined state '" ++ missing ++ "'"
  | pattern state text issue =>
    "pattern /" ++ text ++ "/ in state '" ++ state ++ "' at " ++ toString issue.offset ++ ": "
      ++ issue.message

end Finding

mutual

def Tree.patterns : Tree → List String
  | ⟨_, node, transitions⟩ =>
    (match node with
      | .regex pattern => [pattern]
      | _ => []) ++ Tree.allPatterns transitions

def Tree.allPatterns : List Tree → List String
  | [] => []
  | t :: ts => t.patterns ++ Tree.allPatterns ts

end

namespace Grammar

/-- What lowering a grammar finds. A reference listed under the empty name is taken for the root. -/
def referenceFindings (g : Grammar) : List Finding :=
  match Graph.ofGrammar g with
  | .error e => [.build e]
  | .ok graph =>
    graph.dangling.map fun (state, missing) =>
      if state.isEmpty then .undefinedRoot missing else .undefinedState state missing

/-- The findings for the patterns of a state. -/
def patternFindings (t : Tree) : Option (List Finding) := do
  let state := t.stateName?.getD ""
  let found ← t.patterns.mapM fun text =>
    (Lint.checkPattern text).map fun issues => issues.map (.pattern state text)
  some found.flatten

def findings (g : Grammar) : Option (List Finding) := do
  let found ← g.states.mapM patternFindings
  some (g.referenceFindings ++ found.flatten)

end Grammar

end GraphLexer
