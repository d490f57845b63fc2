/-
What the graph of a grammar holds.

The nodes of the grammar are in the arena in preorder (`laid_build`): each step does what the node
says (`Does`), and what a node refers to is below it. `Holds id t` says that the tree `t` is in the arena
at `id`, with its transitions at the positions the node refers to. The graph of a grammar holds the trees
of its states at their entries (`entryOf_rel`), and has entries for no other names.
-/
import GraphLexer.Proofs.Graph.Builder

namespace GraphLexer.Graph

/-! ## Steps -/

variable {engine : Engine}

/-- A step does what a node says. -/
inductive Does (engine : Engine) (names : Names) : Step → Node → Prop
  | state {i : Nat} {name : String} : names.states.name? i = some name →
      Does engine names (.state i) (.state name)
  | literal {text : String} : Does engine names (.literal text (Text.units text)) (.literal text)
  | unicode {min max : Option UInt32} : Does engine names (.unicode min max) (.unicode min max)
  | regex {pattern : String} {matcher : Matcher} : engine.compile (Text.view pattern) = some matcher →
      Does engine names (.regex pattern matcher) (.regex pattern)
  | subState {i : Nat} {target : String} {r : Repetition} : names.states.name? i = some target →
      Does engine names (.subState i r) (.subState target r)
  | applyTag {i : Nat} {tag : String} : names.tags.name? i = some tag →
      Does engine names (.applyTag i) (.applyTag tag)

theorem Does.mono {names names' : Names} (h : names.Begins names') {step : Step} {node : Node} :
    Does engine names step node → Does engine names' step node
  | .state hi => .state (h.states.name? hi)
  | .literal => .literal
  | .unicode => .unicode
  | .regex hr => .regex hr
  | .subState hi => .subState (h.states.name? hi)
  | .applyTag hi => .applyTag (h.tags.name? hi)

theorem lowerNode_does {state : String} {names names' : Names} {node : Node} {step : Step}
    (h : lowerNode engine state names node = .ok (step, names')) :
    names.Begins names' ∧ Does engine names' step node := by
  cases node with
  | state name =>
    cases h; exact ⟨⟨NameTable.begins_intern _ _, .refl _⟩, .state (NameTable.name?_intern _ _)⟩
  | literal text => cases h; exact ⟨.refl _, .literal⟩
  | unicode min max => cases h; exact ⟨.refl _, .unicode⟩
  | regex pattern =>
    rw [lowerNode] at h
    split at h
    · next r hr => cases h; exact ⟨.refl _, .regex hr⟩
    · cases h
  | subState target r =>
    cases h; exact ⟨⟨NameTable.begins_intern _ _, .refl _⟩, .subState (NameTable.name?_intern _ _)⟩
  | applyTag tag =>
    cases h; exact ⟨⟨.refl _, NameTable.begins_intern _ _⟩, .applyTag (NameTable.name?_intern _ _)⟩

/-! ## Patterns -/

/-- The matcher of a step is what an engine makes of its pattern. -/
def StepCompiledBy (engine : Engine) : Step → Prop
  | .regex pattern matcher => engine.compile (Text.view pattern) = some matcher
  | _ => True

/-- The matchers of a graph are what an engine makes of its patterns. -/
def CompiledBy (engine : Engine) (g : Graph) : Prop :=
  ∀ id node, g.node? id = some node → StepCompiledBy engine node.step

theorem Does.compiledBy {names : Names} {step : Step} {node : Node} :
    Does engine names step node → StepCompiledBy engine step
  | .regex hm => hm
  | .state _ | .literal | .unicode | .subState _ | .applyTag _ => trivial

/-! ## Nodes in preorder -/

def names (g : Graph) : Names :=
  ⟨g.states, g.tags⟩

@[simp] theorem states_names (g : Graph) : g.names.states = g.states := rfl

@[simp] theorem tags_names (g : Graph) : g.names.tags = g.tags := rfl

theorem describe_eq {g : Graph} {step : Step} {node : Node} (h : Does engine g.names step node) :
    g.describe step = node := by
  cases h with
  | state hi => simpa [describe] using NameTable.name_of_name? hi
  | subState hi => simpa [describe] using NameTable.name_of_name? hi
  | applyTag hi => simpa [describe] using NameTable.name_of_name? hi
  | _ => rfl

/-- A node at a position of the arena is the root of a tree, and the trees below it follow it. -/
structure Lays (engine : Engine) (names : Names) (id : Nat) (n : GraphNode) (t : Tree) : Prop where
  commit : n.commit = t.commit
  step : Does engine names n.step t.node
  transitions : n.transitions = positions (id + 1) t.transitions

theorem lays_of_lowerEach {us : List (String × Tree)} : ∀ {start : Nat} {names names' : Names}
    {nodes : List GraphNode}, lowerEach engine start names us = .ok (nodes, names') →
      names.Begins names' ∧
        ∀ i : Nat, Option.Rel (fun n u => Lays engine names' (start + i) n u.2) nodes[i]? us[i]? := by
  induction us with
  | nil =>
    intro start names names' nodes h
    cases h
    exact ⟨.refl _, fun _ => .none⟩
  | cons u us ih =>
    intro start names names' nodes h
    obtain ⟨state, t⟩ := u
    rw [lowerEach] at h
    cases hn : lowerNode engine state names t.node with
    | error e => rw [hn] at h; cases h
    | ok r =>
      obtain ⟨step, names₁⟩ := r
      cases hus : lowerEach engine (start + 1) names₁ us with
      | error e => simp only [hn, hus] at h; cases h
      | ok r =>
        obtain ⟨rest, names₂⟩ := r
        simp only [hn, hus, Except.ok.injEq, Prod.mk.injEq] at h
        obtain ⟨rfl, rfl⟩ := h
        obtain ⟨hb, hd⟩ := lowerNode_does hn
        obtain ⟨hb', hrest⟩ := ih hus
        refine ⟨hb.trans hb', fun i => ?_⟩
        cases i with
        | zero => exact .some ⟨rfl, hd.mono hb', rfl⟩
        | succ i =>
          have := hrest i
          rwa [Nat.add_right_comm, Nat.add_assoc] at this

/-- Nodes are in the arena one after the other. -/
def Laid (engine : Engine) (g : Graph) (start : Nat) (us : List Tree) : Prop :=
  ∀ i : Nat, ∀ u, us[i]? = some u → ∃ n, g.node? (start + i) = some n ∧ Lays engine g.names (start + i) n u

variable {g : Graph} {start : Nat}

theorem Laid.head {u : Tree} {us : List Tree} (h : g.Laid engine start (u :: us)) :
    ∃ n, g.node? start = some n ∧ Lays engine g.names start n u :=
  h 0 u rfl

theorem Laid.tail {u : Tree} {us : List Tree} (h : g.Laid engine start (u :: us)) :
    g.Laid engine (start + 1) us := by
  intro i v hv
  rw [Nat.add_right_comm, Nat.add_assoc]
  exact h (i + 1) v hv

theorem Laid.left {us vs : List Tree} (h : g.Laid engine start (us ++ vs)) : g.Laid engine start us := by
  intro i u hu
  exact h i u (List.getElem?_append_left (List.getElem?_eq_some_iff.1 hu).1 ▸ hu)

theorem Laid.right {us vs : List Tree} (h : g.Laid engine start (us ++ vs)) :
    g.Laid engine (start + us.length) vs := by
  intro i v hv
  rw [Nat.add_assoc]
  refine h (us.length + i) v ?_
  rw [List.getElem?_append_right (Nat.le_add_right _ _), Nat.add_sub_cancel_left, hv]

/-! ## Trees -/

mutual

def Holds (engine : Engine) (g : Graph) (id : Nat) : Tree → Prop
  | ⟨commit, node, transitions⟩ => ∃ step ids, g.node? id = some ⟨commit, step, ids⟩ ∧
      Does engine g.names step node ∧ HoldsAll engine g ids transitions

/-- Trees are in the arena at their positions. -/
def HoldsAll (engine : Engine) (g : Graph) : List Nat → List Tree → Prop
  | [], [] => True
  | id :: ids, t :: ts => Holds engine g id t ∧ HoldsAll engine g ids ts
  | _, _ => False

end

mutual

theorem holds_of_laid : ∀ {t : Tree} {start : Nat}, g.Laid engine start t.subtrees → g.Holds engine start t
  | ⟨commit, node, transitions⟩, start, h => by
    rw [Tree.subtrees] at h
    obtain ⟨⟨commit', step, ids⟩, hn, hcommit, hd, hids⟩ := h.head
    cases hcommit
    cases hids
    exact ⟨step, _, hn, hd, holdsAll_of_laid h.tail⟩

theorem holdsAll_of_laid : ∀ {ts : List Tree} {start : Nat}, g.Laid engine start (Tree.allSubtrees ts) →
    g.HoldsAll engine (positions start ts) ts
  | [], _, _ => trivial
  | t :: ts, start, h => by
    rw [Tree.allSubtrees] at h
    have hrest := h.right
    rw [Tree.length_subtrees] at hrest
    exact ⟨holds_of_laid h.left, holdsAll_of_laid hrest⟩

end

theorem HoldsAll.rel : ∀ {ids : List Nat} {ts : List Tree}, g.HoldsAll engine ids ts → ∀ i : Nat,
    Option.Rel (g.Holds engine) ids[i]? ts[i]?
  | [], [], _, _ => .none
  | _ :: _, _ :: _, ⟨h, _⟩, 0 => .some h
  | _ :: _, _ :: _, ⟨_, h⟩, i + 1 => h.rel i

/-! ## Grammars -/

variable {grammar : Grammar} (h : build engine grammar = .ok g)
include h

theorem lowerEach_build :
    lowerEach engine 0 (.ofGrammar grammar) grammar.occurrences = .ok (g.nodes.toList, g.names) ∧
      g.entries = ((positions 0 grammar.states).map some ++
        List.replicate (g.states.size - grammar.states.length) none).toArray ∧ g.root = grammar.root := by
  rw [build_eq_layout, layout] at h
  cases hs : lowerEach engine 0 (.ofGrammar grammar) grammar.occurrences with
  | error e => rw [hs] at h; cases h
  | ok r =>
    rw [hs] at h
    cases h
    exact ⟨rfl, rfl, rfl⟩

/-- **The nodes of a grammar are in its graph in preorder**, and there are no others. -/
theorem node?_rel (id : Nat) :
    Option.Rel (Lays engine g.names id) (g.node? id) (Tree.allSubtrees grammar.states)[id]? := by
  have hrel := (lays_of_lowerEach (lowerEach_build h).1).2 id
  rw [Nat.zero_add, Array.getElem?_toList] at hrel
  rw [← Grammar.map_occurrences, List.getElem?_map, node?]
  generalize g.nodes[id]? = n at hrel
  generalize grammar.occurrences[id]? = u at hrel
  cases hrel with
  | none => exact .none
  | some hlays => exact .some hlays

theorem compiledBy_build : g.CompiledBy engine := by
  intro id node hn
  have hrel := node?_rel h id
  rw [hn] at hrel
  generalize (Tree.allSubtrees grammar.states)[id]? = u at hrel
  cases hrel with
  | some hlays => exact hlays.step.compiledBy

theorem laid_build : g.Laid engine 0 (Tree.allSubtrees grammar.states) := by
  intro id u hu
  have hrel := node?_rel h id
  rw [hu] at hrel
  rw [Nat.zero_add]
  generalize g.node? id = n at hrel
  cases hrel with
  | some hlays => exact ⟨_, rfl, hlays⟩

/-- The entry of a state is where the pass puts its tree. -/
theorem entryOf_eq (state : Nat) : g.entryOf state = (positions 0 grammar.states)[state]? := by
  rw [entryOf, (lowerEach_build h).2.1, List.getElem?_toArray, List.getElem?_append, List.length_map]
  split
  · rw [List.getElem?_map]
    cases (positions 0 grammar.states)[state]? <;> rfl
  · next hge =>
    rw [List.getElem?_replicate, List.getElem?_eq_none (Nat.le_of_not_lt hge)]
    split <;> rfl

/-- The states of a grammar are in its graph at their entries, and their names begin the table. -/
theorem build_spec : grammar.stateNames <+: g.states.names ∧
    g.HoldsAll engine (positions 0 grammar.states) grammar.states :=
  ⟨(lays_of_lowerEach (lowerEach_build h).1).1.states, holdsAll_of_laid (laid_build h)⟩

theorem name?_of_state {i : Nat} {t : Tree} {name : String} (ht : grammar.states[i]? = some t)
    (hname : t.stateName? = some name) : g.states.name? i = some name := by
  have hmap := congrArg (·[i]?) (map_stateNames grammar.named)
  simp only [List.getElem?_map, ht, Option.map_some, hname] at hmap
  obtain ⟨name', hi, he⟩ := Option.map_eq_some_iff.1 hmap
  cases he
  exact (show (⟨grammar.stateNames, grammar.distinct⟩ : NameTable).Begins g.states from
    (build_spec h).1).name? hi

/-- A state is looked up by its name as it is by its number. -/
theorem state?_eq {i : Nat} {name : String} (hi : g.states.name? i = some name) :
    grammar.state? name = grammar.states[i]? := by
  have hindex : ∀ {j : Nat} {t : Tree}, grammar.states[j]? = some t → t.stateName? = some name → j = i :=
    fun ht hname => NameTable.eq_of_name? (name?_of_state h ht hname) hi
  rw [Grammar.state?]
  cases ht : grammar.states[i]? with
  | none =>
    refine List.find?_eq_none.2 fun t hmem => ?_
    obtain ⟨j, hj⟩ := List.mem_iff_getElem?.1 hmem
    intro hname
    rw [hindex hj (by simpa using hname), ht] at hj
    cases hj
  | some t =>
    obtain ⟨hlt, he⟩ := List.getElem?_eq_some_iff.1 ht
    obtain ⟨name', hname⟩ := Option.isSome_iff_exists.1 (grammar.named t (he ▸ List.getElem_mem hlt))
    have := (name?_of_state h ht hname).symm.trans hi
    cases this
    refine List.find?_eq_some_iff_getElem.2 ⟨by simpa using hname, i, hlt, he, fun j hj => ?_⟩
    have hj' : grammar.states[j]? = some grammar.states[j] := List.getElem?_eq_getElem _
    simp only [Bool.not_eq_eq_eq_not, Bool.not_true, beq_eq_false_iff_ne, ne_eq]
    intro hname'
    have := hindex hj' hname'
    omega

/-- **A graph holds the states of its grammar at their entries**, and has no other entries. -/
theorem entryOf_rel {i : Nat} {name : String} (hi : g.states.name? i = some name) :
    Option.Rel (g.Holds engine) (g.entryOf i) (grammar.state? name) := by
  rw [state?_eq h hi, entryOf_eq h]
  exact (build_spec h).2.rel i

theorem entry_rel (name : String) : Option.Rel (g.Holds engine) (g.entry name) (grammar.state? name) := by
  cases hf : g.states.find? name with
  | some i =>
    rw [entry, hf]
    exact entryOf_rel h (NameTable.find?_eq_some.1 hf)
  | none =>
    have hnone : grammar.state? name = none := by
      refine List.find?_eq_none.2 fun t hmem hname => NameTable.find?_eq_none.1 hf ?_
      obtain ⟨j, hj⟩ := List.mem_iff_getElem?.1 hmem
      exact List.mem_of_getElem? (name?_of_state h hj (by simpa using hname))
    rw [entry, hf, hnone]
    exact .none

end GraphLexer.Graph
