/-
Grammars: named states and the name of the root state.

`ofStates` accepts a list of trees exactly when each defines a state and no name is defined twice; a
grammar carries both facts. Names that are mentioned need not be defined: a missing state shows only
when an evaluation reaches it.
-/
import GraphLexer.Grammar.Node
import GraphLexer.Json.Reader
import GraphLexer.Wire

namespace GraphLexer

/-- Why a grammar could not be made. -/
inductive GrammarError where
  /-- The text is not a grammar in JSON. -/
  | json (fault : Json.Fault)
  /-- The bytes are not a grammar in binary. -/
  | binary (fault : Wire.Fault)
  /-- A tree at the top does not define a state. -/
  | notAState (index : Nat) (node : Node)
  /-- Two trees define the same state. -/
  | duplicateState (name : String)
  deriving DecidableEq, Repr

/-- What a fault in a JSON text is called in a message. -/
def Json.Fault.message : Json.Fault → String
  | .malformed => "the text is not JSON"
  | .cutShort => "the text ends too early"
  | .misshapen => "the text does not describe a grammar"

def GrammarError.message : GrammarError → String
  | .json fault => "JSON parse error: " ++ fault.message
  | .binary fault => "binary decode error: " ++ fault.message
  | .notAState index node =>
    "top-level node #" ++ toString index ++ " must be a State, found " ++ node.kindName
  | .duplicateState name => "state '" ++ name ++ "' is defined twice"

/-- The names of the states that a list of trees defines. -/
def Tree.stateNames (ts : List Tree) : List String :=
  ts.filterMap Tree.stateName?

/-- Named states in the order of their definition, and the name of the root state. -/
structure Grammar where
  root : String
  states : List Tree
  named : ∀ t ∈ states, t.stateName?.isSome
  distinct : (Tree.stateNames states).Nodup

namespace Grammar

instance : DecidableEq Grammar := fun a b =>
  if h : a.root = b.root ∧ a.states = b.states then
    isTrue (by cases a; cases b; simp_all)
  else
    isFalse (by rintro rfl; exact h ⟨rfl, rfl⟩)

/-- The first fault of a list of trees, from the given index on and after the given names. -/
def firstFault (index : Nat) (seen : List String) : List Tree → Option GrammarError
  | [] => none
  | t :: ts =>
    match t.stateName? with
    | none => some (.notAState index t.node)
    | some name =>
      if name ∈ seen then some (.duplicateState name) else firstFault (index + 1) (name :: seen) ts

theorem firstFault_eq_none {index : Nat} {seen : List String} {ts : List Tree}
    (h : firstFault index seen ts = none) :
    (∀ t ∈ ts, t.stateName?.isSome) ∧ (Tree.stateNames ts).Nodup
      ∧ ∀ name ∈ Tree.stateNames ts, name ∉ seen := by
  induction ts generalizing index seen with
  | nil => simp [Tree.stateNames]
  | cons t ts ih =>
    unfold firstFault at h
    cases hn : t.stateName? with
    | none => simp [hn] at h
    | some name =>
      rw [hn] at h
      by_cases hs : name ∈ seen
      · simp [hs] at h
      · simp only [hs, if_false] at h
        obtain ⟨named, nodup, fresh⟩ := ih h
        refine ⟨?_, ?_, ?_⟩
        · intro u hu
          rcases List.mem_cons.1 hu with rfl | hu
          · simp [hn]
          · exact named u hu
        · simp only [Tree.stateNames, List.filterMap_cons, hn, List.nodup_cons]
          exact ⟨fun hm => fresh name hm (by simp), nodup⟩
        · intro n hm
          simp only [Tree.stateNames, List.filterMap_cons, hn, List.mem_cons] at hm
          rcases hm with rfl | hm
          · exact hs
          · exact fun hs' => fresh n hm (by simp [hs'])

theorem firstFault_of_distinct {index : Nat} {seen : List String} {ts : List Tree}
    (named : ∀ t ∈ ts, t.stateName?.isSome) (distinct : (Tree.stateNames ts).Nodup)
    (fresh : ∀ name ∈ Tree.stateNames ts, name ∉ seen) : firstFault index seen ts = none := by
  induction ts generalizing index seen with
  | nil => rfl
  | cons t ts ih =>
    obtain ⟨name, hn⟩ := Option.isSome_iff_exists.1 (named t (by simp))
    simp only [Tree.stateNames, List.filterMap_cons, hn, List.nodup_cons, List.mem_cons] at distinct fresh
    have hs : name ∉ seen := fresh name (Or.inl rfl)
    simp only [firstFault, hn, if_neg hs]
    refine ih (fun u hu => named u (by simp [hu])) distinct.2 fun n hm => ?_
    rintro (_ | ⟨_, hs'⟩)
    · exact distinct.1 hm
    · exact fresh n (Or.inr hm) hs'

/-- The grammar of a list of trees, or the first of them that does not fit. -/
def ofStates (root : String) (states : List Tree) : Except GrammarError Grammar :=
  match h : firstFault 0 [] states with
  | some e => .error e
  | none => .ok ⟨root, states, (firstFault_eq_none h).1, (firstFault_eq_none h).2.1⟩

theorem ofStates_states (g : Grammar) : ofStates g.root g.states = .ok g := by
  have hfault : firstFault 0 [] g.states = none :=
    firstFault_of_distinct g.named g.distinct fun _ _ => List.not_mem_nil
  unfold ofStates
  split
  · next e he => rw [hfault] at he; cases he
  · rfl

def withRoot (g : Grammar) (root : String) : Grammar :=
  ⟨root, g.states, g.named, g.distinct⟩

/-- The names of the states, in the order of their definition. -/
def stateNames (g : Grammar) : List String :=
  Tree.stateNames g.states

def state? (g : Grammar) (name : String) : Option Tree :=
  g.states.find? fun t => t.stateName? == some name

def size (g : Grammar) : Nat :=
  g.states.length

def nodeCount (g : Grammar) : Nat :=
  Tree.sizes g.states

end Grammar

end GraphLexer
