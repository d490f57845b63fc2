/-
Grammars and graphs without commit flags.

Clearing every flag of a grammar and clearing every flag of its graph come to the same
(`build_uncommitted`): the flags take no part in where the nodes are put and how they are numbered.
-/
import GraphLexer.Proofs.Graph.Builder

namespace GraphLexer

namespace Tree

mutual

/-- A tree without commit flags. -/
def uncommitted : Tree → Tree
  | ⟨_, node, transitions⟩ => ⟨false, node, uncommitteds transitions⟩

/-- Trees without commit flags. -/
def uncommitteds : List Tree → List Tree
  | [] => []
  | t :: ts => t.uncommitted :: uncommitteds ts

end

@[simp] theorem stateName?_uncommitted (t : Tree) : t.uncommitted.stateName? = t.stateName? := by
  cases t; rfl

theorem mem_uncommitteds {u : Tree} : ∀ {ts : List Tree}, u ∈ uncommitteds ts →
    ∃ t ∈ ts, u = t.uncommitted
  | t :: ts, h => by
    rcases List.mem_cons.1 h with rfl | h
    · exact ⟨t, by simp, rfl⟩
    · obtain ⟨t', ht', rfl⟩ := mem_uncommitteds h
      exact ⟨t', by simp [ht'], rfl⟩

@[simp] theorem stateNames_uncommitteds (ts : List Tree) :
    stateNames (uncommitteds ts) = stateNames ts := by
  induction ts with
  | nil => rfl
  | cons t ts ih =>
    simp only [stateNames, uncommitteds, List.filterMap_cons, stateName?_uncommitted] at ih ⊢
    rw [ih]

mutual

@[simp] theorem size_uncommitted : ∀ t : Tree, t.uncommitted.size = t.size
  | ⟨_, _, transitions⟩ => congrArg (1 + ·) (sizes_uncommitteds transitions)

@[simp] theorem sizes_uncommitteds : ∀ ts : List Tree, sizes (uncommitteds ts) = sizes ts
  | [] => rfl
  | t :: ts => by rw [uncommitteds, sizes, sizes, size_uncommitted t, sizes_uncommitteds ts]

end

theorem uncommitteds_eq (ts : List Tree) : uncommitteds ts = ts.map uncommitted := by
  induction ts with
  | nil => rfl
  | cons t ts ih => rw [uncommitteds, ih, List.map_cons]

mutual

theorem subtrees_uncommitted : ∀ t : Tree, t.uncommitted.subtrees = t.subtrees.map uncommitted
  | ⟨_, _, transitions⟩ => by
    rw [uncommitted, subtrees, allSubtrees_uncommitteds transitions, subtrees, List.map_cons, uncommitted]

theorem allSubtrees_uncommitteds : ∀ ts : List Tree,
    allSubtrees (uncommitteds ts) = (allSubtrees ts).map uncommitted
  | [] => rfl
  | t :: ts => by
    rw [uncommitteds, allSubtrees, subtrees_uncommitted t, allSubtrees_uncommitteds ts, allSubtrees,
      List.map_append]

end

@[simp] theorem node_uncommitted (t : Tree) : t.uncommitted.node = t.node := by
  cases t; rfl

@[simp] theorem commit_uncommitted (t : Tree) : t.uncommitted.commit = false := by
  cases t; rfl

@[simp] theorem transitions_uncommitted (t : Tree) :
    t.uncommitted.transitions = uncommitteds t.transitions := by
  cases t; rfl

end Tree

/-- A grammar without commit flags. -/
def Grammar.uncommitted (g : Grammar) : Grammar where
  root := g.root
  states := Tree.uncommitteds g.states
  named t ht := by
    obtain ⟨t', ht', rfl⟩ := Tree.mem_uncommitteds ht
    simpa using g.named t' ht'
  distinct := by simpa using g.distinct

theorem Grammar.states_uncommitted (g : Grammar) : g.uncommitted.states = g.states.map Tree.uncommitted :=
  Tree.uncommitteds_eq g.states

theorem Grammar.occurrences_uncommitted (g : Grammar) :
    g.uncommitted.occurrences = g.occurrences.map fun u => (u.1, u.2.uncommitted) := by
  rw [occurrences, occurrences, states_uncommitted, List.flatMap_map, List.map_flatMap]
  refine congrArg (g.states.flatMap ·) (funext fun t => ?_)
  rw [Tree.stateName?_uncommitted, Tree.subtrees_uncommitted, List.map_map, List.map_map]
  rfl

/-- A node without its commit flag. -/
def GraphNode.uncommitted (node : GraphNode) : GraphNode :=
  { node with commit := false }

namespace Graph

/-- A graph without commit flags. -/
def uncommitted (g : Graph) : Graph :=
  { g with nodes := g.nodes.map GraphNode.uncommitted }

theorem node?_uncommitted (g : Graph) (id : Nat) :
    g.uncommitted.node? id = (g.node? id).map GraphNode.uncommitted := by
  simp [node?, uncommitted]

theorem positions_uncommitteds (start : Nat) (ts : List Tree) :
    positions start (Tree.uncommitteds ts) = positions start ts := by
  induction ts generalizing start with
  | nil => rfl
  | cons t ts ih => rw [Tree.uncommitteds, positions, positions, Tree.size_uncommitted, ih]

/-- Nodes without commit flags, with the names beside them. -/
def clearFlags (r : List GraphNode × Names) : List GraphNode × Names :=
  (r.1.map GraphNode.uncommitted, r.2)

/-- The pass over nodes without flags makes the nodes without flags. -/
theorem lowerEach_uncommitted (engine : Engine) (us : List (String × Tree)) : ∀ (start : Nat) (names : Names),
    lowerEach engine start names (us.map fun u => (u.1, u.2.uncommitted)) =
      (lowerEach engine start names us).map clearFlags := by
  induction us with
  | nil => intro _ _; rfl
  | cons u us ih =>
    intro start names
    rw [List.map_cons, lowerEach, lowerEach, Tree.node_uncommitted, Tree.commit_uncommitted,
      Tree.transitions_uncommitted, positions_uncommitteds]
    cases lowerNode engine u.1 names u.2.node with
    | error e => rfl
    | ok r =>
      dsimp only
      rw [ih]
      cases lowerEach engine (start + 1) r.2 us <;> rfl

/-- **The flags of a grammar are only kept**: its graph without them is that of the grammar without
    them. -/
theorem build_uncommitted (engine : Engine) (g : Grammar) :
    build engine g.uncommitted = (build engine g).map uncommitted := by
  have hnames : Names.ofGrammar g.uncommitted = .ofGrammar g := by
    simp only [Names.ofGrammar, show g.uncommitted.stateNames = g.stateNames from
      Tree.stateNames_uncommitteds g.states]
  have hpositions : positions 0 g.uncommitted.states = positions 0 g.states :=
    positions_uncommitteds 0 g.states
  have hlength : g.uncommitted.states.length = g.states.length := by
    rw [Grammar.states_uncommitted, List.length_map]
  rw [build_eq_layout, build_eq_layout, layout, layout, hnames, Grammar.occurrences_uncommitted,
    lowerEach_uncommitted, hpositions, hlength]
  cases lowerEach engine 0 (.ofGrammar g) g.occurrences with
  | error e => rfl
  | ok r => simp [Except.map, clearFlags, uncommitted, Grammar.uncommitted]

end Graph

end GraphLexer
