/-
The builder makes the pass in preorder.

A node is put into the arena before the trees below it, and gets its transitions one by one as these are
done. The arena only grows at its end, and the node that transitions are added to lies before all that is
put there meanwhile. So what a tree adds to the arena are the nodes of the pass (`lower_eq`), and the
transitions that a node ends up with are where the pass puts its trees (`lowerBelow_eq`).

The states are numbered before the pass, so each of them keeps its number, and the table of entries is
filled from its start on; what is left are the states that are only mentioned (`build_eq_layout`).
-/
import GraphLexer.Proofs.Graph.Preorder
import Mathlib.Data.List.Nodup

namespace GraphLexer

/-! ## Arenas -/

section
variable {α : Type} {f g : α → α}

theorem modify_push (xs : Array α) (a : α) : (xs.push a).modify xs.size f = xs.push (f a) := by
  refine Array.ext_getElem? fun i => ?_
  rw [Array.getElem?_modify, Array.getElem?_push, Array.getElem?_push]
  split
  · next h => rw [← h, if_pos rfl, if_pos rfl]; rfl
  · next h => rw [if_neg (Ne.symm h), if_neg (Ne.symm h)]

theorem modify_self (xs : Array α) (i : Nat) : (xs.modify i fun a => a) = xs := by
  refine Array.ext_getElem? fun j => ?_
  rw [Array.getElem?_modify, Option.map_id', ite_self]

theorem modify_append {xs ys : Array α} {i : Nat} (h : i < xs.size) :
    (xs ++ ys).modify i f = xs.modify i f ++ ys := by
  refine Array.ext_getElem? fun j => ?_
  rw [Array.getElem?_modify, Array.getElem?_append, Array.getElem?_append, Array.getElem?_modify,
    Array.size_modify]
  split
  · next hij => rw [if_pos (hij ▸ h), if_pos (hij ▸ h)]
  · rfl

theorem modify_modify (xs : Array α) (i : Nat) :
    (xs.modify i f).modify i g = xs.modify i fun a => g (f a) := by
  refine Array.ext_getElem? fun j => ?_
  rw [Array.getElem?_modify, Array.getElem?_modify, Array.getElem?_modify]
  split
  · rw [Option.map_map]; rfl
  · rfl

end

theorem GraphNode.goOn_nil (node : GraphNode) : node.goOn [] = node := by
  rw [goOn, List.append_nil]

theorem GraphNode.goOn_goOn (node : GraphNode) (ids ids' : List Nat) :
    (node.goOn ids).goOn ids' = node.goOn (ids ++ ids') := by
  simp only [goOn, List.append_assoc]

namespace Builder

open GraphLexer.Graph

variable {engine : Engine} {state : String}

mutual

/-- What a tree adds to the arena are the nodes of the pass. -/
theorem lower_eq : ∀ (t : Tree) (b : Builder), lower engine state b t =
    (lowerEach engine b.nodes.size b.names (t.subtrees.map fun u => (state, u))).map fun r =>
      (⟨b.nodes ++ r.1.toArray, r.2⟩, b.nodes.size)
  | ⟨commit, node, transitions⟩, b => by
    rw [lower, Tree.subtrees, List.map_cons, lowerEach]
    cases lowerNode engine state b.names node with
    | error e => rfl
    | ok r =>
      obtain ⟨step, names⟩ := r
      have hid : b.nodes.size < (b.push commit step names).nodes.size := by simp [push]
      have hsize : (b.push commit step names).nodes.size = b.nodes.size + 1 := by simp [push]
      have hnames : (b.push commit step names).names = names := rfl
      dsimp only
      rw [lowerBelow_eq transitions (b.push commit step names) hid, hsize, hnames]
      cases lowerEach engine (b.nodes.size + 1) names _ with
      | error e => rfl
      | ok r => simp [Except.map, push, modify_push, GraphNode.goOn]

/-- Trees below a node add the nodes of the pass to the arena, and their positions to the node. -/
theorem lowerBelow_eq : ∀ (ts : List Tree) (b : Builder) {id : Nat}, id < b.nodes.size →
    lowerBelow engine state id b ts =
      (lowerEach engine b.nodes.size b.names ((Tree.allSubtrees ts).map fun u => (state, u))).map
        fun r => ⟨b.nodes.modify id (·.goOn (positions b.nodes.size ts)) ++ r.1.toArray, r.2⟩
  | [], b, id, _ => by
    simp only [lowerBelow, Tree.allSubtrees, List.map_nil, lowerEach, positions, GraphNode.goOn_nil,
      modify_self, Except.map, Array.append_empty]
  | t :: ts, b, id, hid => by
    rw [lowerBelow, Tree.allSubtrees, List.map_append, lowerEach_append, lower_eq t b]
    cases hfirst : lowerEach engine b.nodes.size b.names (t.subtrees.map fun u => (state, u)) with
    | error e => rfl
    | ok r =>
      obtain ⟨first, names⟩ := r
      have hlen : first.length = t.size := by
        rw [length_of_lowerEach hfirst, List.length_map, Tree.length_subtrees]
      -- the node lies before the tree that is now in the arena
      have hlinked : link ⟨b.nodes ++ first.toArray, names⟩ id b.nodes.size =
          ⟨b.nodes.modify id (·.goOn [b.nodes.size]) ++ first.toArray, names⟩ := by
        rw [link, modify_append hid]
      have hsize : (b.nodes.modify id (·.goOn [b.nodes.size]) ++ first.toArray).size =
          b.nodes.size + t.size := by
        simp only [Array.size_append, Array.size_modify, List.size_toArray, hlen]
      simp only [Except.map, hlinked, List.length_map, Tree.length_subtrees]
      rw [lowerBelow_eq ts _ (by rw [hsize]; omega), hsize]
      cases lowerEach engine (b.nodes.size + t.size) names _ with
      | error e => rfl
      | ok r =>
        simp only [Except.map]
        rw [modify_append (by rwa [Array.size_modify]), modify_modify, positions]
        simp [GraphNode.goOn_goOn]

end

/-! ## States -/

/-- The number of a state that is in a table. -/
def stateNumber (names : Names) (t : Tree) : Nat :=
  names.states.names.idxOf (t.stateName?.getD "")

theorem internState_of_mem {b : Builder} {name : String} (h : name ∈ b.names.states.names) :
    b.internState name = (b, b.names.states.names.idxOf name) := by
  simp only [internState, NameTable.intern, dif_pos h]

/-- The states are put into the arena one after the other, and keep their numbers. -/
theorem lowerStates_eq (ts : List Tree) : ∀ (b : Builder) (defined : List (Nat × Nat)),
    (∀ t ∈ ts, t.stateName?.getD "" ∈ b.names.states.names) →
    lowerStates engine b defined ts = (lowerEach engine b.nodes.size b.names
      (ts.flatMap fun t => t.subtrees.map fun u => (t.stateName?.getD "", u))).map fun r =>
        (⟨b.nodes ++ r.1.toArray, r.2⟩,
          defined ++ (ts.map (stateNumber b.names)).zip (positions b.nodes.size ts)) := by
  induction ts with
  | nil => intro b defined _; simp [lowerStates, lowerEach, positions, Except.map]
  | cons t ts ih =>
    intro b defined hnamed
    rw [lowerStates, List.flatMap_cons, lowerEach_append, lower_eq t b]
    cases hfirst : lowerEach engine b.nodes.size b.names
        (t.subtrees.map fun u => (t.stateName?.getD "", u)) with
    | error e => rfl
    | ok r =>
      obtain ⟨first, names⟩ := r
      have hbegins := begins_of_lowerEach hfirst
      have hlen : first.length = t.size := by
        rw [length_of_lowerEach hfirst, List.length_map, Tree.length_subtrees]
      have hmem : ∀ u ∈ t :: ts, u.stateName?.getD "" ∈ names.states.names := fun u hu =>
        hbegins.states.subset (hnamed u hu)
      have hnumber : ∀ u ∈ t :: ts, stateNumber names u = stateNumber b.names u := fun u hu =>
        NameTable.Begins.idxOf hbegins.states (hnamed u hu)
      simp only [Except.map, List.length_map, Tree.length_subtrees]
      rw [internState_of_mem (hmem t List.mem_cons_self)]
      dsimp only
      rw [ih _ _ fun u hu => hmem u (List.mem_cons_of_mem _ hu)]
      simp only [Array.size_append, List.size_toArray, hlen]
      cases lowerEach engine (b.nodes.size + t.size) names _ with
      | error e => rfl
      | ok r =>
        have hrest : ts.map (stateNumber names) = ts.map (stateNumber b.names) :=
          List.map_congr_left fun u hu => hnumber u (List.mem_cons_of_mem _ hu)
        have hfirst : names.states.names.idxOf (t.stateName?.getD "") = stateNumber b.names t :=
          hnumber t List.mem_cons_self
        simp only [Except.map, positions, hrest, hfirst, List.map_cons, List.zip_cons_cons]
        simp

end Builder

/-! ## Entries -/

namespace Graph

/-- Filling a table from its start on. -/
theorem foldl_setIfInBounds (ids : List Nat) : ∀ (front : List (Option Nat)) (more : Nat),
    ((List.range' front.length ids.length).zip ids).foldl
        (fun entries (state, id) => entries.setIfInBounds state (some id))
        (front ++ List.replicate (ids.length + more) none).toArray =
      (front ++ ids.map some ++ List.replicate more none).toArray := by
  induction ids with
  | nil => intro front more; simp
  | cons id ids ih =>
    intro front more
    have hset : (front ++ List.replicate (ids.length + 1 + more) none).set front.length (some id) =
        (front ++ [some id]) ++ List.replicate (ids.length + more) none := by
      rw [Nat.add_right_comm, List.set_append_right _ _ (Nat.le_refl _), Nat.sub_self,
        List.replicate_succ, List.set_cons_zero, List.append_assoc, List.singleton_append]
    have hrest := ih (front ++ [some id]) more
    rw [List.length_append, List.length_singleton] at hrest
    rw [List.length_cons, List.range'_succ, List.zip_cons_cons, List.foldl_cons]
    dsimp only
    rw [List.setIfInBounds_toArray, hset, hrest, List.map_cons]
    simp

theorem entryTable_eq {ids : List Nat} {size : Nat} (h : ids.length ≤ size) :
    entryTable size ((List.range ids.length).zip ids) =
      (ids.map some ++ List.replicate (size - ids.length) none).toArray := by
  have hfill := foldl_setIfInBounds ids [] (size - ids.length)
  rw [List.length_nil, ← List.range_eq_range', List.nil_append, List.nil_append,
    Nat.add_sub_cancel' h] at hfill
  rw [entryTable, ← hfill]
  simp

end Graph

/-! ## Grammars -/

namespace Builder

theorem names_foldl_intern (names : List String) : ∀ t : NameTable, (t.names ++ names).Nodup →
    (names.foldl (fun states name => (states.intern name).1) t).names = t.names ++ names := by
  induction names with
  | nil => intro t _; rw [List.foldl_nil, List.append_nil]
  | cons name names ih =>
    intro t h
    have hnew : name ∉ t.names := fun hmem =>
      (List.nodup_append.1 h).2.2 name hmem name List.mem_cons_self rfl
    have hnames : (t.intern name).1.names = t.names ++ [name] := by
      rw [NameTable.names_intern, if_neg hnew]
    rw [List.foldl_cons, ih _ (by rwa [hnames, List.append_assoc, List.singleton_append]), hnames,
      List.append_assoc, List.singleton_append]

/-- The builder of a grammar begins with the names of its states. -/
theorem ofGrammar_eq (g : Grammar) : ofGrammar g = ⟨#[], .ofGrammar g⟩ := by
  have hnames := names_foldl_intern g.stateNames .empty g.distinct
  rw [ofGrammar, Graph.Names.ofGrammar]
  generalize g.stateNames.foldl _ _ = t at hnames
  cases t
  cases hnames
  rfl

end Builder

namespace Graph

theorem map_stateNames {ts : List Tree} (h : ∀ t ∈ ts, t.stateName?.isSome) :
    (Tree.stateNames ts).map some = ts.map Tree.stateName? := by
  induction ts with
  | nil => rfl
  | cons t ts ih =>
    obtain ⟨name, hname⟩ := Option.isSome_iff_exists.1 (h t (by simp))
    rw [Tree.stateNames, List.filterMap_cons, hname, List.map_cons, List.map_cons, hname,
      ← ih fun t ht => h t (by simp [ht])]
    rfl

/-- Each state of a grammar has a name. -/
theorem map_getD_stateName? (g : Grammar) : g.states.map (·.stateName?.getD "") = g.stateNames := by
  have h := congrArg (List.map fun name : Option String => name.getD "") (map_stateNames g.named)
  rw [List.map_map, List.map_map] at h
  exact h.symm.trans (List.map_id _)

theorem length_stateNames (g : Grammar) : g.stateNames.length = g.states.length := by
  rw [← map_getD_stateName?, List.length_map]

/-- The states of a grammar are numbered in the order of their definition. -/
theorem map_stateNumber (g : Grammar) :
    g.states.map (Builder.stateNumber (.ofGrammar g)) = List.range g.states.length := by
  have h : g.states.map (Builder.stateNumber (.ofGrammar g)) =
      (g.states.map (·.stateName?.getD "")).map g.stateNames.idxOf := by
    rw [List.map_map]
    rfl
  rw [h, map_getD_stateName?, ← length_stateNames]
  refine List.ext_getElem (by simp) fun i hi _ => ?_
  rw [List.getElem_map, List.getElem_range]
  exact List.Nodup.idxOf_getElem g.distinct i (List.length_map (Tree.stateNames g.states).idxOf ▸ hi)

/-- The graph of a grammar, as the pass makes it. The places of the states that are only mentioned are
    empty. -/
def layout (engine : Engine) (g : Grammar) : Except GraphError Graph :=
  (lowerEach engine 0 (.ofGrammar g) g.occurrences).map fun r =>
    ⟨r.1.toArray, r.2.states, r.2.tags, ((positions 0 g.states).map some ++
      List.replicate (r.2.states.size - g.states.length) none).toArray, g.root⟩

/-- **The builder makes the pass.** -/
theorem build_eq_layout (engine : Engine) (g : Grammar) : build engine g = layout engine g := by
  have hnamed : ∀ t ∈ g.states, t.stateName?.getD "" ∈ g.stateNames := fun t ht => by
    rw [← map_getD_stateName?]
    exact List.mem_map_of_mem ht
  have hpass : Builder.lowerStates engine (.ofGrammar g) [] g.states =
      (lowerEach engine 0 (.ofGrammar g) g.occurrences).map fun r =>
        (⟨r.1.toArray, r.2⟩, (List.range g.states.length).zip (positions 0 g.states)) := by
    rw [Builder.ofGrammar_eq, Builder.lowerStates_eq g.states _ _ hnamed]
    simp only [map_stateNumber, List.size_toArray, List.length_nil, List.nil_append, Array.empty_append]
    rfl
  rw [build, hpass, layout]
  cases hpass : lowerEach engine 0 (.ofGrammar g) g.occurrences with
  | error e => rfl
  | ok r =>
    have hle : (positions 0 g.states).length ≤ r.2.states.size := by
      have hbegins : g.stateNames <+: r.2.states.names := (begins_of_lowerEach hpass).states
      rw [length_positions, ← length_stateNames]
      exact hbegins.length_le
    have htable := entryTable_eq hle
    rw [length_positions] at htable
    simp only [Except.map, htable]

theorem ofGrammar_of_layout {g : Grammar} {graph : Graph} (h : layout Regex.engine g = .ok graph) :
    ofGrammar g = .ok graph :=
  (build_eq_layout _ _).trans h

end Graph

end GraphLexer
