/-
The graph of a grammar is a layout of the grammar that is faithful and complete.

There is a graph exactly if all patterns compile, and otherwise the error names the first one that does
not, with the state whose tree it is in. `LaysOut` says what the graph is:

  * its positions number the nodes of the grammar in preorder;
  * the links of the nodes and the entries are all positions, each of them once (`links_perm`), so a node
    is below exactly one other node or is an entry;
  * the table of entries has a place for each state, which is empty where the state is only mentioned;
  * `tree?` rebuilds the tree of a state from its entry (`tree?_entry`);
  * defined states, and then whatever else is mentioned, are numbered in the order in which they are met.
-/
import GraphLexer.Proofs.Graph.Simulation
import Mathlib.Data.List.Nodup
import Mathlib.Logic.ExistsUnique

namespace GraphLexer.Graph

/-! ## Links -/

/-- The positions that nodes in preorder refer to, the first node being at `start`. -/
def links (start : Nat) : List Tree → List Nat
  | [] => []
  | t :: ts => positions (start + 1) t.transitions ++ links (start + 1) ts

theorem links_append (us vs : List Tree) (start : Nat) :
    links start (us ++ vs) = links start us ++ links (start + us.length) vs := by
  induction us generalizing start with
  | nil => rfl
  | cons u us ih =>
    rw [List.cons_append, links, links, ih, List.append_assoc, List.length_cons, Nat.add_right_comm,
      Nat.add_assoc start]

mutual

theorem perm_links_subtrees : ∀ (t : Tree) (start : Nat),
    (start :: links start t.subtrees).Perm (List.range' start t.size)
  | ⟨_, _, transitions⟩, start => by
    rw [Tree.subtrees, links, Tree.size, Nat.add_comm 1, List.range'_succ]
    exact (perm_links_allSubtrees transitions (start + 1)).cons start

theorem perm_links_allSubtrees : ∀ (ts : List Tree) (start : Nat),
    (positions start ts ++ links start (Tree.allSubtrees ts)).Perm (List.range' start (Tree.sizes ts))
  | [], _ => .refl _
  | t :: ts, start => by
    have hfirst := perm_links_subtrees t start
    have hrest := perm_links_allSubtrees ts (start + t.size)
    rw [positions, Tree.allSubtrees, links_append, Tree.length_subtrees, Tree.sizes, ← List.range'_append_1,
      List.cons_append]
    exact ((List.perm_append_comm_assoc _ _ _).cons start).trans (hfirst.append hrest)

end

theorem flatMap_transitions {engine : Engine} {names : Names} : ∀ {nodes : List GraphNode}
    {us : List Tree} {start : Nat},
    (∀ i : Nat, Option.Rel (Lays engine names (start + i)) nodes[i]? us[i]?) →
      nodes.flatMap (·.transitions) = links start us
  | [], [], _, _ => rfl
  | [], _ :: _, _, h => nomatch h 0
  | _ :: _, [], _, h => nomatch h 0
  | n :: nodes, u :: us, start, h => by
    have hrest : ∀ i : Nat, Option.Rel (Lays engine names (start + 1 + i)) nodes[i]? us[i]? := by
      intro i
      rw [Nat.add_right_comm, Nat.add_assoc]
      exact h (i + 1)
    cases h 0 with
    | some hlays => rw [List.flatMap_cons, hlays.transitions, flatMap_transitions hrest]; rfl

theorem length_eq_of_rel {α β : Type} {R : Nat → α → β → Prop} {as : List α} {bs : List β}
    (h : ∀ i : Nat, Option.Rel (R i) as[i]? bs[i]?) : as.length = bs.length := by
  have hnone : ∀ i : Nat, as[i]? = none ↔ bs[i]? = none := by
    intro i
    have hi := h i
    generalize as[i]? = a at hi
    generalize bs[i]? = b at hi
    cases hi <;> simp
  refine Nat.le_antisymm ?_ ?_
  · exact List.getElem?_eq_none_iff.1 ((hnone _).2 (List.getElem?_eq_none (Nat.le_refl _)))
  · exact List.getElem?_eq_none_iff.1 ((hnone _).1 (List.getElem?_eq_none (Nat.le_refl _)))

/-- Parts of a list without repetitions have nothing in common. -/
theorem eq_of_mem_flatMap {α β : Type} {f : α → List β} {as : List α} (h : (as.flatMap f).Nodup)
    {i j : Nat} {a a' : α} (ha : as[i]? = some a) (ha' : as[j]? = some a') {b : β} (hb : b ∈ f a)
    (hb' : b ∈ f a') : i = j := by
  have hdisjoint := List.pairwise_iff_getElem.1 (List.nodup_flatMap.1 h).2
  obtain ⟨hi, rfl⟩ := List.getElem?_eq_some_iff.1 ha
  obtain ⟨hj, rfl⟩ := List.getElem?_eq_some_iff.1 ha'
  rcases Nat.lt_trichotomy i j with hlt | heq | hlt
  · exact absurd hb' (hdisjoint _ _ hi hj hlt hb)
  · exact heq
  · exact absurd hb (hdisjoint _ _ hj hi hlt hb')

theorem le_of_mem_positions {next : Nat} : ∀ {ts : List Tree} {start : Nat}, next ∈ positions start ts →
    start ≤ next
  | t :: ts, start, h => by
    rcases List.mem_cons.1 h with rfl | h
    · exact Nat.le_refl _
    · exact Nat.le_trans (Nat.le_add_right _ _) (le_of_mem_positions h)

/-- The entries that are there, by the numbers of their states. -/
def entryNodes (g : Graph) : List Nat :=
  g.entries.toList.filterMap id

variable {engine : Engine} {g : Graph}

theorem mem_links {parent next : Nat} {node : GraphNode} (hn : g.node? parent = some node)
    (hnext : next ∈ node.transitions) : next ∈ g.nodes.toList.flatMap (·.transitions) :=
  List.mem_flatMap.2 ⟨node, List.mem_of_getElem? (Array.getElem?_toList.trans hn), hnext⟩

section
variable {grammar : Grammar} (h : build engine grammar = .ok g)
include h

theorem size_build : g.nodes.size = grammar.nodeCount := by
  have hrel : ∀ id : Nat,
      Option.Rel (Lays engine g.names id) g.nodes.toList[id]?
        (Tree.allSubtrees grammar.states)[id]? := by
    intro id
    rw [Array.getElem?_toList]
    exact node?_rel h id
  have hlen := length_eq_of_rel hrel
  rwa [Array.length_toList, Tree.length_allSubtrees] at hlen

theorem entryNodes_eq : g.entryNodes = positions 0 grammar.states := by
  rw [entryNodes, (lowerEach_build h).2.1, List.filterMap_append, List.filterMap_map,
    List.filterMap_replicate_of_none rfl, List.append_nil]
  exact List.filterMap_some

/-- The table of entries has a place for each state. -/
theorem size_entries : g.entries.size = g.states.size := by
  have hle : grammar.stateNames.length ≤ g.states.names.length := (build_spec h).1.length_le
  rw [length_stateNames] at hle
  rw [(lowerEach_build h).2.1, List.size_toArray, List.length_append, List.length_map, length_positions,
    List.length_replicate]
  exact Nat.add_sub_cancel' hle

/-- **The links and the entries are all positions**, each of them once. -/
theorem links_perm : (g.nodes.toList.flatMap (·.transitions) ++ g.entryNodes).Perm
    (List.range g.nodes.size) := by
  have hlinks : g.nodes.toList.flatMap (·.transitions) = links 0 (Tree.allSubtrees grammar.states) :=
    flatMap_transitions fun id => by
      rw [Array.getElem?_toList, Nat.zero_add]
      exact node?_rel h id
  rw [hlinks, entryNodes_eq h, size_build h, List.range_eq_range']
  exact List.perm_append_comm.trans (perm_links_allSubtrees grammar.states 0)

/-- A link goes forward, to another node. -/
theorem lt_of_mem_transitions {id next : Nat} {node : GraphNode} (hn : g.node? id = some node)
    (hnext : next ∈ node.transitions) : id < next ∧ next < g.nodes.size := by
  constructor
  · have hrel := node?_rel h id
    rw [hn] at hrel
    generalize (Tree.allSubtrees grammar.states)[id]? = u at hrel
    cases hrel with
    | some hlays => exact le_of_mem_positions (hlays.transitions ▸ hnext)
  · exact List.mem_range.1 ((links_perm h).subset (List.mem_append_left _ (mem_links hn hnext)))

/-- A node that is not an entry is below exactly one node. -/
theorem existsUnique_parent {id : Nat} (hid : id < g.nodes.size) (hne : id ∉ g.entryNodes) :
    ∃! parent, ∃ node, g.node? parent = some node ∧ id ∈ node.transitions := by
  have hmem := (links_perm h).symm.subset (List.mem_range.2 hid)
  obtain ⟨node, hnode, hin⟩ := List.mem_flatMap.1 ((List.mem_append.1 hmem).resolve_right hne)
  obtain ⟨parent, hparent⟩ := List.mem_iff_getElem?.1 hnode
  refine ⟨parent, ⟨node, by rwa [node?, ← Array.getElem?_toList], hin⟩, ?_⟩
  rintro other ⟨node', hother, hin'⟩
  rw [node?, ← Array.getElem?_toList] at hother
  have hnodup := ((links_perm h).nodup_iff.2 List.nodup_range).of_append_left
  exact eq_of_mem_flatMap hnodup hother hparent hin' hin

end

/-! ## Trees -/

/-- The tree at a position, rebuilt node by node in at most `fuel` levels. -/
def treeWithin (g : Graph) : Nat → Nat → Option Tree
  | 0, _ => none
  | fuel + 1, id =>
    match g.node? id with
    | none => none
    | some node =>
      (node.transitions.mapM (treeWithin g fuel)).map fun ts => ⟨node.commit, g.describe node.step, ts⟩

/-- The tree at a position, rebuilt node by node. A tree has no more levels than there are nodes. -/
def tree? (g : Graph) (id : Nat) : Option Tree :=
  g.treeWithin g.nodes.size id

mutual

theorem treeWithin_of_holds : ∀ {t : Tree} {fuel id : Nat}, g.Holds engine id t → t.size ≤ fuel →
    g.treeWithin fuel id = some t
  | ⟨commit, node, transitions⟩, fuel, id, ⟨step, ids, hn, hd, hall⟩, hfuel => by
    rw [Tree.size] at hfuel
    cases fuel with
    | zero => omega
    | succ fuel =>
      simp only [treeWithin, hn, mapM_of_holdsAll hall (show Tree.sizes transitions ≤ fuel by omega),
        Option.map_some, describe_eq hd]

theorem mapM_of_holdsAll : ∀ {ts : List Tree} {fuel : Nat} {ids : List Nat}, g.HoldsAll engine ids ts →
    Tree.sizes ts ≤ fuel → ids.mapM (g.treeWithin fuel) = some ts
  | [], _, [], _, _ => rfl
  | t :: ts, fuel, id :: ids, ⟨h, hs⟩, hfuel => by
    rw [Tree.sizes] at hfuel
    rw [List.mapM_cons, treeWithin_of_holds h (by omega), mapM_of_holdsAll hs (by omega)]
    rfl

end

theorem size_le_sizes {t : Tree} {ts : List Tree} (h : t ∈ ts) : t.size ≤ Tree.sizes ts := by
  induction ts with
  | nil => cases h
  | cons u ts ih =>
    rw [Tree.sizes]
    rcases List.mem_cons.1 h with rfl | h
    · omega
    · have := ih h
      omega

/-- **The tree of a state is rebuilt from its entry**, and other names have none. -/
theorem tree?_entry {grammar : Grammar} (h : build engine grammar = .ok g) (name : String) :
    (g.entry name).bind g.tree? = grammar.state? name := by
  have hrel := entry_rel h name
  cases hs : grammar.state? name with
  | none =>
    rw [hs] at hrel
    generalize g.entry name = entry at hrel
    cases hrel
    rfl
  | some t =>
    rw [hs] at hrel
    generalize g.entry name = entry at hrel
    cases hrel with
    | some hholds =>
      have hle := size_le_sizes (List.mem_of_find?_eq_some hs)
      rw [Option.bind_some, tree?, size_build h]
      exact treeWithin_of_holds hholds hle

/-! ## Names -/

/-- The numbers that a step holds have names. -/
def Resolves (g : Graph) : Step → Prop
  | .state name => (g.states.name? name).isSome
  | .subState target _ => (g.states.name? target).isSome
  | .applyTag tag => (g.tags.name? tag).isSome
  | _ => True

theorem Does.resolves {step : Step} {node : Node} (h : Does engine g.names step node) : g.Resolves step := by
  cases h with
  | state hi | subState hi | applyTag hi => exact Option.isSome_iff_exists.2 ⟨_, hi⟩
  | literal | unicode | regex => trivial

theorem isSome_state? (grammar : Grammar) (name : String) :
    (grammar.state? name).isSome ↔ name ∈ grammar.stateNames := by
  simp [Grammar.state?, Grammar.stateNames, Tree.stateNames, List.find?_isSome]

section
variable {grammar : Grammar} (h : build engine grammar = .ok g)
include h

theorem resolves_build {id : Nat} {node : GraphNode} (hn : g.node? id = some node) :
    g.Resolves node.step := by
  have hrel := node?_rel h id
  rw [hn] at hrel
  generalize (Tree.allSubtrees grammar.states)[id]? = u at hrel
  cases hrel with
  | some hlays => exact hlays.step.resolves

/-- A name has an entry exactly if it is defined. -/
theorem isSome_entry (name : String) : (g.entry name).isSome ↔ name ∈ grammar.stateNames := by
  have hrel := entry_rel h name
  rw [← isSome_state?]
  generalize g.entry name = entry at hrel
  generalize grammar.state? name = state at hrel
  cases hrel <;> simp

/-- **Defined states, and then what else is mentioned, are numbered as they are met.** -/
theorem names_build : g.states.names = (grammar.stateNames ++
      (Tree.allSubtrees grammar.states).flatMap (·.node.stateMentions)).eraseDups ∧
    g.tags.names = ((Tree.allSubtrees grammar.states).flatMap (·.node.tagMentions)).eraseDups := by
  have hnames := names_of_lowerEach (lowerEach_build h).1
  rw [← Grammar.map_occurrences, List.flatMap_map, List.flatMap_map]
  exact hnames

/-- A place is empty exactly if its state is not defined. -/
theorem hole_iff {i : Nat} {name : String} (hi : g.states.name? i = some name) :
    g.entries[i]? = some none ↔ name ∉ grammar.stateNames := by
  have hlt : i < g.entries.size := size_entries h ▸ NameTable.lt_size hi
  have hentry := isSome_entry h name
  rw [entry, NameTable.find?_eq_some.2 hi, Option.bind_some, entryOf] at hentry
  rw [← hentry, Array.getElem?_eq_getElem hlt]
  cases g.entries[i] <;> simp

theorem find?_of_stateNames {i : Nat} {name : String} (hi : grammar.stateNames[i]? = some name) :
    g.states.find? name = some i := by
  have hbegins : (⟨grammar.stateNames, grammar.distinct⟩ : NameTable).Begins g.states :=
    (build_spec h).1
  exact NameTable.find?_eq_some.2 (hbegins.name? hi)

end

/-! ## The layout of a grammar -/

/-- A graph is a grammar, node by node and name by name. -/
structure LaysOut (engine : Engine) (g : Graph) (grammar : Grammar) : Prop where
  size : g.nodes.size = grammar.nodeCount
  /-- the positions number the nodes in preorder -/
  preorder : ∀ id, Option.Rel (Lays engine g.names id) (g.node? id) (Tree.allSubtrees grammar.states)[id]?
  /-- links go forward, to other nodes -/
  forward : ∀ id node, g.node? id = some node → ∀ next ∈ node.transitions,
    id < next ∧ next < g.nodes.size
  /-- no position is linked twice, and no entry is linked -/
  links : (g.nodes.toList.flatMap (·.transitions) ++ g.entryNodes).Perm (List.range g.nodes.size)
  parent : ∀ id < g.nodes.size, id ∉ g.entryNodes →
    ∃! parent, ∃ node, g.node? parent = some node ∧ id ∈ node.transitions
  /-- there is a place for each state, and it is empty where the state is not defined -/
  places : g.entries.size = g.states.size
  hole : ∀ i name, g.states.name? i = some name → (g.entries[i]? = some none ↔ name ∉ grammar.stateNames)
  /-- the trees of the states are rebuilt from their entries -/
  tree : ∀ name, (g.entry name).bind g.tree? = grammar.state? name
  entry : ∀ name, (g.entry name).isSome ↔ name ∈ grammar.stateNames
  /-- a defined state is numbered by its place among the definitions -/
  number : ∀ i name, grammar.stateNames[i]? = some name → g.states.find? name = some i
  /-- names that are only mentioned follow, each where it is met first -/
  states : g.states.names = (grammar.stateNames ++
    (Tree.allSubtrees grammar.states).flatMap (·.node.stateMentions)).eraseDups
  tags : g.tags.names =
    ((Tree.allSubtrees grammar.states).flatMap (·.node.tagMentions)).eraseDups
  resolves : ∀ id node, g.node? id = some node → g.Resolves node.step

theorem laysOut_build {grammar : Grammar} (h : build engine grammar = .ok g) : g.LaysOut engine grammar where
  size := size_build h
  preorder := node?_rel h
  forward _ _ hn _ := lt_of_mem_transitions h hn
  links := links_perm h
  parent _ hid := existsUnique_parent h hid
  places := size_entries h
  hole _ _ := hole_iff h
  tree := tree?_entry h
  entry := isSome_entry h
  number _ _ := find?_of_stateNames h
  states := (names_build h).1
  tags := (names_build h).2
  resolves _ _ := resolves_build h

/-- The first pattern that does not compile is what a grammar is refused for. -/
theorem build_eq_error {grammar : Grammar} {e : GraphError} : build engine grammar = .error e ↔
    grammar.patterns.find? (fun use => !engine.compiles use.2) = some (e.state, e.pattern) := by
  rw [Grammar.patterns, ← @lowerEach_eq_error engine _ e 0 (.ofGrammar grammar), build_eq_layout, layout]
  cases lowerEach engine 0 (.ofGrammar grammar) grammar.occurrences <;> simp [Except.map]

theorem exists_build {grammar : Grammar} : (∃ graph, build engine grammar = .ok graph) ↔
    ∀ use ∈ grammar.patterns, engine.compiles use.2 := by
  constructor
  · rintro ⟨graph, hg⟩ use huse
    by_contra hc
    have hfound : (grammar.patterns.find? fun use => !engine.compiles use.2).isSome :=
      List.find?_isSome.2 ⟨use, huse, by simpa using hc⟩
    obtain ⟨⟨state, pattern⟩, hfirst⟩ := Option.isSome_iff_exists.1 hfound
    rw [(build_eq_error (e := ⟨state, pattern⟩)).2 hfirst] at hg
    cases hg
  · intro hall
    cases hg : build engine grammar with
    | ok graph => exact ⟨graph, rfl⟩
    | error e =>
      have hfirst := build_eq_error.1 hg
      have hc := hall _ (List.mem_of_find?_eq_some hfirst)
      have hc' := List.find?_some hfirst
      simp [hc] at hc'

/-- **Lowering is a faithful and complete layout**, whatever compiles the patterns. There is a graph if
    and only if every pattern compiles, and it lays out the grammar; otherwise the error is about the
    first pattern that does not, in preorder. -/
theorem build_laysOut (engine : Engine) (grammar : Grammar) :
    ((∃ graph, build engine grammar = .ok graph) ↔ ∀ use ∈ grammar.patterns, engine.compiles use.2) ∧
    (∀ e, build engine grammar = .error e ↔ grammar.patterns.find? (fun use => !engine.compiles use.2) =
      some (e.state, e.pattern)) ∧
    ∀ graph, build engine grammar = .ok graph → graph.LaysOut engine grammar :=
  ⟨exists_build, fun _ => build_eq_error, fun _ => laysOut_build⟩

/-- The second state has two patterns that do not compile, the first below a nested state. -/
def refused : Grammar where
  root := "S"
  states := [
    .plain (.state "S") [.plain (.regex "a+") [], .plain (.subState "U" .once) []],
    .plain (.state "T") [.plain (.state "V") [.plain (.regex "(") []], .plain (.regex "[") []]]
  named := by simp [Tree.plain, Tree.stateName?]
  distinct := by simp [Tree.plain, Tree.stateNames, Tree.stateName?]

/-- A grammar with a state that is not defined has a graph, and one with a pattern that does not compile
    has none. -/
theorem laysOut_incomplete :
    (∃ graph, ofGrammar Evaluator.incomplete = .ok graph ∧ graph.entries = #[some 0, some 3, none] ∧
      graph.LaysOut Regex.engine Evaluator.incomplete) ∧
      ofGrammar refused = .error ⟨"T", "("⟩ :=
  ⟨⟨_, rfl, rfl, (build_laysOut Regex.engine Evaluator.incomplete).2.2 _ rfl⟩,
    ((build_laysOut Regex.engine refused).2.1 ⟨"T", "("⟩).2 (by decide +kernel)⟩

end GraphLexer.Graph
