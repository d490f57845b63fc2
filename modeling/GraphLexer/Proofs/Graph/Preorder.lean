/-
A pass over the nodes of a grammar in preorder.

`Tree.subtrees` lists the nodes of a tree, parents first, each with everything below it, and
`Grammar.occurrences` the nodes of all states, each under the state whose tree it is in. `lowerEach` makes
the nodes of an arena from this list, one after the other: the position of a node is its place in the list,
and where its transitions are is seen from the sizes of their trees (`positions`). What the pass does is
shown by induction on the list:

  * the names in a table are those it begins with and then the mentioned ones, each where it is met first
    (`names_of_lowerEach`);
  * the first pattern that does not compile ends the pass, and nothing else does (`lowerEach_eq_error`).
-/
import GraphLexer.Graph.Lower
import GraphLexer.Proofs.Graph.Names

namespace GraphLexer

/-! ## Subtrees -/

namespace Tree

mutual

/-- The nodes of a tree, parents first, each with everything below it. -/
def subtrees : Tree → List Tree
  | ⟨commit, node, transitions⟩ => ⟨commit, node, transitions⟩ :: allSubtrees transitions

/-- The nodes of trees, one tree after the other. -/
def allSubtrees : List Tree → List Tree
  | [] => []
  | t :: ts => t.subtrees ++ allSubtrees ts

end

theorem allSubtrees_eq (ts : List Tree) : allSubtrees ts = ts.flatMap subtrees := by
  induction ts with
  | nil => rfl
  | cons t ts ih => rw [allSubtrees, ih, List.flatMap_cons]

mutual

theorem length_subtrees : ∀ t : Tree, t.subtrees.length = t.size
  | ⟨_, _, transitions⟩ => by
    rw [subtrees, List.length_cons, length_allSubtrees transitions, size, Nat.add_comm]

theorem length_allSubtrees : ∀ ts : List Tree, (allSubtrees ts).length = sizes ts
  | [] => rfl
  | t :: ts => by
    rw [allSubtrees, List.length_append, length_subtrees t, length_allSubtrees ts, sizes]

end

end Tree

def Node.stateMentions : Node → List String
  | .state name => [name]
  | .subState target _ => [target]
  | _ => []

def Node.tagMentions : Node → List String
  | .applyTag tag => [tag]
  | _ => []

def Node.pattern? : Node → Option String
  | .regex pattern => some pattern
  | _ => none

/-- Whether an engine does not refuse a pattern. -/
def Engine.compiles (engine : Engine) (pattern : String) : Bool :=
  (engine.compile (Text.view pattern)).isSome

namespace Grammar

/-- The nodes of a grammar in preorder, each with everything below it and under the state whose tree it
    is in. -/
def occurrences (g : Grammar) : List (String × Tree) :=
  g.states.flatMap fun t => t.subtrees.map fun u => (t.stateName?.getD "", u)

theorem map_occurrences (g : Grammar) : g.occurrences.map (·.2) = Tree.allSubtrees g.states := by
  simp only [occurrences, Tree.allSubtrees_eq, List.map_flatMap, List.map_map]
  refine congrArg (g.states.flatMap ·) (funext fun t => ?_)
  exact List.map_id _

/-- The pattern of a node, under the state whose tree it is in. -/
def use? (u : String × Tree) : Option (String × String) :=
  u.2.node.pattern?.map fun pattern => (u.1, pattern)

def patterns (g : Grammar) : List (String × String) :=
  g.occurrences.filterMap use?

end Grammar

/-! ## One pass -/

namespace Graph

/-- The positions of trees that are put into the arena from `start` on, one after the other. -/
def positions (start : Nat) : List Tree → List Nat
  | [] => []
  | t :: ts => start :: positions (start + t.size) ts

theorem length_positions (ts : List Tree) (start : Nat) : (positions start ts).length = ts.length := by
  induction ts generalizing start with
  | nil => rfl
  | cons t ts ih => rw [positions, List.length_cons, List.length_cons, ih]

variable {engine : Engine}

/-- The nodes for a list of nodes in preorder, the first of them at `start`. -/
def lowerEach (engine : Engine) (start : Nat) (names : Names) :
    List (String × Tree) → Except GraphError (List GraphNode × Names)
  | [] => .ok ([], names)
  | (state, t) :: us =>
    match lowerNode engine state names t.node with
    | .error e => .error e
    | .ok (step, names) =>
      match lowerEach engine (start + 1) names us with
      | .error e => .error e
      | .ok (nodes, names) => .ok (⟨t.commit, step, positions (start + 1) t.transitions⟩ :: nodes, names)

theorem length_of_lowerEach {us : List (String × Tree)} : ∀ {start : Nat} {names names' : Names}
    {nodes : List GraphNode}, lowerEach engine start names us = .ok (nodes, names') →
      nodes.length = us.length := by
  induction us with
  | nil => intro _ _ _ _ h; cases h; rfl
  | cons u us ih =>
    intro start names names' nodes h
    rw [lowerEach] at h
    split at h
    · cases h
    · split at h
      · cases h
      · next hrest => cases h; rw [List.length_cons, List.length_cons, ih hrest]

theorem lowerEach_append {us vs : List (String × Tree)} : ∀ {start : Nat} {names : Names},
    lowerEach engine start names (us ++ vs) =
      match lowerEach engine start names us with
      | .error e => .error e
      | .ok (first, names) =>
        match lowerEach engine (start + us.length) names vs with
        | .error e => .error e
        | .ok (rest, names) => .ok (first ++ rest, names) := by
  induction us with
  | nil =>
    intro start names
    simp only [List.nil_append, lowerEach, List.length_nil, Nat.add_zero]
    cases lowerEach engine start names vs <;> rfl
  | cons u us ih =>
    intro start names
    obtain ⟨state, t⟩ := u
    simp only [List.cons_append, lowerEach, List.length_cons]
    cases lowerNode engine state names t.node with
    | error e => rfl
    | ok r =>
      obtain ⟨step, names₁⟩ := r
      simp only [ih]
      cases lowerEach engine (start + 1) names₁ us with
      | error e => rfl
      | ok r =>
        obtain ⟨first, names₂⟩ := r
        dsimp only
        rw [Nat.add_right_comm, Nat.add_assoc]
        cases lowerEach engine (start + (us.length + 1)) names₂ vs <;> rfl

/-! ## Names -/

/-- The tables that the names of a grammar begin with: its states are there, no tag is. -/
def Names.ofGrammar (g : Grammar) : Names :=
  ⟨⟨g.stateNames, g.distinct⟩, .empty⟩

/-- What a node mentions is added to the tables, up to repetition. -/
theorem names_of_lowerNode {state : String} {names names' : Names} {node : Node} {step : Step}
    (h : lowerNode engine state names node = .ok (step, names')) (states tags : List String) :
    (names'.states.names ++ states).eraseDups =
        (names.states.names ++ (node.stateMentions ++ states)).eraseDups ∧
      (names'.tags.names ++ tags).eraseDups =
        (names.tags.names ++ (node.tagMentions ++ tags)).eraseDups := by
  cases node with
  | state name | subState name _ => cases h; exact ⟨NameTable.eraseDups_intern _ _ _, rfl⟩
  | applyTag tag => cases h; exact ⟨rfl, NameTable.eraseDups_intern _ _ _⟩
  | literal text | unicode min max => cases h; exact ⟨rfl, rfl⟩
  | regex pattern =>
    rw [lowerNode] at h
    split at h
    · cases h; exact ⟨rfl, rfl⟩
    · cases h

theorem eraseDups_of_lowerEach {us : List (String × Tree)} : ∀ {start : Nat} {names names' : Names}
    {nodes : List GraphNode}, lowerEach engine start names us = .ok (nodes, names') →
      names'.states.names.eraseDups =
          (names.states.names ++ us.flatMap (·.2.node.stateMentions)).eraseDups ∧
        names'.tags.names.eraseDups =
          (names.tags.names ++ us.flatMap (·.2.node.tagMentions)).eraseDups := by
  induction us with
  | nil =>
    intro start names names' nodes h
    cases h
    simp
  | cons u us ih =>
    intro start names names' nodes h
    obtain ⟨state, t⟩ := u
    rw [lowerEach] at h
    cases hn : lowerNode engine state names t.node with
    | error e => rw [hn] at h; cases h
    | ok r =>
      obtain ⟨step, names₁⟩ := r
      cases hus : lowerEach engine (start + 1) names₁ us with
      | error e => simp only [hn, hus] at h; cases h
      | ok r =>
        obtain ⟨rest, names₂⟩ := r
        simp only [hn, hus, Except.ok.injEq, Prod.mk.injEq] at h
        obtain ⟨rfl, rfl⟩ := h
        obtain ⟨hstates, htags⟩ := names_of_lowerNode hn (us.flatMap (·.2.node.stateMentions))
          (us.flatMap (·.2.node.tagMentions))
        obtain ⟨hstates', htags'⟩ := ih hus
        exact ⟨hstates'.trans hstates, htags'.trans htags⟩

/-- **Names are numbered where they are met first**, after those that the tables begin with. -/
theorem names_of_lowerEach {us : List (String × Tree)} {start : Nat} {names names' : Names}
    {nodes : List GraphNode} (h : lowerEach engine start names us = .ok (nodes, names')) :
    names'.states.names = (names.states.names ++ us.flatMap (·.2.node.stateMentions)).eraseDups ∧
      names'.tags.names = (names.tags.names ++ us.flatMap (·.2.node.tagMentions)).eraseDups := by
  obtain ⟨hstates, htags⟩ := eraseDups_of_lowerEach h
  rw [NameTable.eraseDups_of_nodup names'.states.nodup] at hstates
  rw [NameTable.eraseDups_of_nodup names'.tags.nodup] at htags
  exact ⟨hstates, htags⟩

/-- Tables that begin other ones. -/
structure Names.Begins (names names' : Names) : Prop where
  states : names.states.Begins names'.states
  tags : names.tags.Begins names'.tags

theorem Names.Begins.refl (names : Names) : names.Begins names := ⟨.refl _, .refl _⟩

theorem Names.Begins.trans {names names' names'' : Names} (h : names.Begins names')
    (h' : names'.Begins names'') : names.Begins names'' :=
  ⟨h.states.trans h'.states, h.tags.trans h'.tags⟩

theorem begins_of_lowerEach {us : List (String × Tree)} {start : Nat} {names names' : Names}
    {nodes : List GraphNode} (h : lowerEach engine start names us = .ok (nodes, names')) :
    names.Begins names' := by
  obtain ⟨hstates, htags⟩ := names_of_lowerEach h
  rw [List.eraseDups_append, NameTable.eraseDups_of_nodup names.states.nodup] at hstates
  rw [List.eraseDups_append, NameTable.eraseDups_of_nodup names.tags.nodup] at htags
  exact ⟨⟨_, hstates.symm⟩, ⟨_, htags.symm⟩⟩

/-! ## Refused patterns -/

theorem lowerNode_eq_error {state : String} {names : Names} {node : Node} {e : GraphError} :
    lowerNode engine state names node = .error e ↔
      ∃ pattern, node.pattern? = some pattern ∧ engine.compiles pattern = false ∧ e = ⟨state, pattern⟩ := by
  cases node with
  | regex pattern =>
    rw [lowerNode]
    cases hr : engine.compile (Text.view pattern) with
    | some r => simp [Node.pattern?, Engine.compiles, hr]
    | none =>
      constructor
      · intro h
        cases h
        exact ⟨pattern, rfl, by simp [Engine.compiles, hr], rfl⟩
      · rintro ⟨_, hp, -, rfl⟩
        cases hp
        rfl
  | _ => simp [lowerNode, Node.pattern?]

theorem compiles_of_lowerNode {state : String} {names : Names} {node : Node} {r : Step × Names}
    (h : lowerNode engine state names node = .ok r) {pattern : String} (hp : node.pattern? = some pattern) :
    engine.compiles pattern = true := by
  cases hc : engine.compiles pattern with
  | true => rfl
  | false =>
    rw [lowerNode_eq_error.2 ⟨pattern, hp, hc, rfl⟩] at h
    cases h

/-- **The first pattern that does not compile ends the pass**, and nothing else does. -/
theorem lowerEach_eq_error {us : List (String × Tree)} {e : GraphError} : ∀ {start : Nat} {names : Names},
    lowerEach engine start names us = .error e ↔
      (us.filterMap Grammar.use?).find? (fun use => !engine.compiles use.2) =
        some (e.state, e.pattern) := by
  induction us with
  | nil => simp [lowerEach]
  | cons u us ih =>
    intro start names
    obtain ⟨state, t⟩ := u
    rw [lowerEach]
    cases hn : lowerNode engine state names t.node with
    | error f =>
      obtain ⟨pattern, hp, hc, rfl⟩ := lowerNode_eq_error.1 hn
      obtain ⟨state', pattern'⟩ := e
      simp [Grammar.use?, hp, hc]
    | ok r =>
      obtain ⟨step, names₁⟩ := r
      have hskip : ((us.filterMap Grammar.use?).find? fun use => !engine.compiles use.2) =
          (((state, t) :: us).filterMap Grammar.use?).find? fun use => !engine.compiles use.2 := by
        cases hp : t.node.pattern? with
        | none => simp [Grammar.use?, hp]
        | some pattern => simp [Grammar.use?, hp, compiles_of_lowerNode hn hp]
      rw [← hskip, ← @ih (start + 1) names₁]
      dsimp only
      cases lowerEach engine (start + 1) names₁ us with
      | error f => rfl
      | ok r => simp

end Graph

end GraphLexer
