/-
The nodes of a grammar as they are written: a tree for each named state.

A `Node` says what is matched, a `Tree` adds the commit flag and the ordered transitions. An
invocation names its target instead of holding it, so grammars that refer to themselves are finite
trees, and the circle is closed only when a name is looked up.
-/
import GraphLexer.Grammar.Repetition

namespace GraphLexer

/-! ## Texts on one line -/

namespace Text

/-- How a character is written on one line: a line feed, a carriage return and a tab as escapes. -/
def escapeChar : Char → List Char
  | '\n' => ['\\', 'n']
  | '\r' => ['\\', 'r']
  | '\t' => ['\\', 't']
  | c => [c]

/-- A text on one line. A backslash stays as it is, so this is for reading only. -/
def escape (s : String) : String :=
  String.ofList (s.toList.flatMap escapeChar)

end Text

/-! ## Nodes -/

/-- The six kinds of node. -/
inductive Node where
  /-- A named entry point: matches nothing itself. -/
  | state (name : String)
  /-- An exact text. The empty one always matches. -/
  | literal (text : String)
  /-- One UTF-16 unit within the bounds, both included. -/
  | unicode (min max : Option UInt32)
  /-- A pattern, at the current position. -/
  | regex (pattern : String)
  /-- Invokes a state as often as the repetition says, then goes on. -/
  | subState (target : String) (repetition : Repetition)
  /-- Puts a tag around what the transitions match. -/
  | applyTag (tag : String)
  deriving DecidableEq, Repr

namespace Node

def kindName : Node → String
  | state _ => "State"
  | literal _ => "MatchLiteral"
  | unicode _ _ => "MatchUnicode"
  | regex _ => "MatchRegex"
  | subState _ _ => "SubState"
  | applyTag _ => "ApplyTag"

/-- The bounds of a unit as a chain of strict inequalities. -/
def boundsText (min max : Option UInt32) : String :=
  (match min with
    | none => ""
    | some m => toString ((m.toNat : Int) - 1) ++ " < ")
  ++ "charCode"
  ++ match max with
    | none => ""
    | some m => " < " ++ toString (m.toNat + 1)

/-- A short description of what a node holds. -/
def content : Node → String
  | state name => name
  | literal text => text
  | unicode min max => boundsText min max
  | regex pattern => pattern
  | subState target repetition => target ++ repetition.suffix
  | applyTag tag => tag

def contentLine (n : Node) : String :=
  Text.escape n.content

end Node

/-- A node with its transitions, which are tried in order. A committed node turns the rejection of
    every transition into a failure. -/
structure Tree where
  commit : Bool
  node : Node
  transitions : List Tree
  deriving Repr

namespace Tree

mutual

def decEq : (a b : Tree) → Decidable (a = b)
  | ⟨c, n, ts⟩, ⟨c', n', ts'⟩ =>
    match decEqs ts ts' with
    | isTrue h =>
      if hn : c = c' ∧ n = n' then isTrue (by simp [hn, h])
      else isFalse (by intro e; cases e; exact hn ⟨rfl, rfl⟩)
    | isFalse h => isFalse (by intro e; cases e; exact h rfl)

def decEqs : (as bs : List Tree) → Decidable (as = bs)
  | [], [] => isTrue rfl
  | [], _ :: _ => isFalse (by simp)
  | _ :: _, [] => isFalse (by simp)
  | a :: as, b :: bs =>
    match decEq a b, decEqs as bs with
    | isTrue h, isTrue hs => isTrue (by rw [h, hs])
    | isFalse h, _ => isFalse (by intro e; cases e; exact h rfl)
    | _, isFalse hs => isFalse (by intro e; cases e; exact hs rfl)

end

instance : DecidableEq Tree := decEq

/-- The name of the state that a tree defines. -/
def stateName? (t : Tree) : Option String :=
  match t.node with
  | .state name => some name
  | _ => none

mutual

def size : Tree → Nat
  | ⟨_, _, transitions⟩ => 1 + sizes transitions

def sizes : List Tree → Nat
  | [] => 0
  | t :: ts => t.size + sizes ts

end

def plain (node : Node) (transitions : List Tree) : Tree :=
  ⟨false, node, transitions⟩

def committed (node : Node) (transitions : List Tree) : Tree :=
  ⟨true, node, transitions⟩

end Tree

end GraphLexer
