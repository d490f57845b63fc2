/-
References to states that are not defined are found wherever they are.

The walk from an entry visits the nodes of its state, in preorder (`preorder_eq`), and so the walks from
all entries visit every node of the arena (`flatMap_preorder`). If they find no missing state, then every
invocation in the graph has a state to invoke (`exists_entryOf`). What they find is what the grammar
refers to without defining it, state by state (`dangling_eq`).
-/
import GraphLexer.Proofs.Graph.Layout

namespace GraphLexer

def Node.target? : Node → Option String
  | .subState target _ => some target
  | _ => none

namespace Grammar

/-- The state that a node invokes without the grammar defining it. -/
def undefined? (g : Grammar) (node : Node) : Option String :=
  node.target?.filter (· ∉ g.stateNames)

/-- The references to states that are not defined, in preorder: the state whose tree each of them is in,
    and the one that is missing. -/
def unresolved (g : Grammar) : List (String × String) :=
  g.occurrences.filterMap fun u => (g.undefined? u.2.node).map fun missing => (u.1, missing)

end Grammar

namespace Graph

variable {engine : Engine} {g : Graph}

/-! ## Walks -/

mutual

/-- A walk that comes to a tree visits its nodes, in preorder, and goes on with what is pending. -/
theorem walk_subtrees : ∀ {t : Tree} {start : Nat}, g.Laid engine start t.subtrees →
    ∀ (fuel : Nat) (pending : List Nat),
      g.walk (t.size + fuel) (start :: pending) = List.range' start t.size ++ g.walk fuel pending
  | ⟨commit, node, transitions⟩, start, h, fuel, pending => by
    rw [Tree.subtrees] at h
    obtain ⟨n, hn, hlays⟩ := h.head
    have hbelow := walk_allSubtrees h.tail fuel pending
    rw [Tree.size, Nat.add_comm 1, Nat.add_right_comm, walk, List.range'_succ, List.cons_append, hn,
      Option.map_some, Option.getD_some, hlays.transitions, hbelow]

theorem walk_allSubtrees : ∀ {ts : List Tree} {start : Nat}, g.Laid engine start (Tree.allSubtrees ts) →
    ∀ (fuel : Nat) (pending : List Nat), g.walk (Tree.sizes ts + fuel) (positions start ts ++ pending) =
      List.range' start (Tree.sizes ts) ++ g.walk fuel pending
  | [], _, _, fuel, pending => by simp [Tree.sizes, positions]
  | t :: ts, start, h, fuel, pending => by
    rw [Tree.allSubtrees] at h
    have hrest := h.right
    rw [Tree.length_subtrees] at hrest
    rw [Tree.sizes, positions, List.cons_append, Nat.add_assoc, walk_subtrees h.left,
      walk_allSubtrees hrest, ← List.append_assoc, List.range'_append_1]

end

theorem walk_nil (g : Graph) (fuel : Nat) : g.walk fuel [] = [] := by
  cases fuel <;> rfl

/-- The positions of a tree of the arena are those from its own on. -/
theorem preorder_eq {t : Tree} {start : Nat} (h : g.Laid engine start t.subtrees)
    (hle : t.size ≤ g.nodes.size) : g.preorder start = List.range' start t.size := by
  obtain ⟨more, hmore⟩ := Nat.exists_eq_add_of_le hle
  rw [preorder, hmore, walk_subtrees h more [], walk_nil, List.append_nil]

theorem flatMap_preorder_of_laid {ts : List Tree} : ∀ {start : Nat}, g.Laid engine start (Tree.allSubtrees ts) →
    Tree.sizes ts ≤ g.nodes.size →
      (positions start ts).flatMap g.preorder = List.range' start (Tree.sizes ts) := by
  induction ts with
  | nil => intro start _ _; rfl
  | cons t ts ih =>
    intro start h hle
    rw [Tree.allSubtrees] at h
    rw [Tree.sizes] at hle
    have hrest := h.right
    rw [Tree.length_subtrees] at hrest
    rw [positions, List.flatMap_cons, preorder_eq h.left (by omega), ih hrest (by omega), Tree.sizes,
      List.range'_append_1]

section
variable {grammar : Grammar} (h : build engine grammar = .ok g)
include h

/-- **The walks from the entries visit every node**, each of them once. -/
theorem flatMap_preorder : g.entryNodes.flatMap g.preorder = List.range g.nodes.size := by
  have hsize := size_build h
  rw [entryNodes_eq h, hsize, List.range_eq_range']
  exact flatMap_preorder_of_laid (laid_build h) (Nat.le_of_eq hsize.symm)

/-! ## Missing states -/

omit h in
theorem filterMap_entryOf (names : List String) : ∀ (start : Nat) (ids : List Nat),
    (∀ i : Nat, g.entryOf (start + i) = ids[i]?) →
    (names.zipIdx start).filterMap (fun p => (g.entryOf p.2).map fun id => (p.1, id)) = names.zip ids := by
  induction names with
  | nil => intro start ids _; rfl
  | cons name names ih =>
    intro start ids hids
    have hrest : ∀ i : Nat, g.entryOf (start + 1 + i) = ids.tail[i]? := fun i => by
      rw [Nat.add_assoc, Nat.add_comm 1, hids, List.getElem?_tail]
    rw [List.zipIdx_cons, List.filterMap_cons, ih _ _ hrest, ← Nat.add_zero start, hids 0]
    cases ids with
    | nil => rw [List.tail_nil, List.zip_nil_right]; rfl
    | cons id ids => rfl

theorem length_entryNodes : grammar.stateNames.length = g.entryNodes.length := by
  rw [entryNodes_eq h, length_stateNames, length_positions]

/-- The defined states are listed with their entries, in the order of their definition. -/
theorem entryPoints_eq : g.entryPoints = grammar.stateNames.zip g.entryNodes := by
  obtain ⟨more, hmore⟩ : grammar.stateNames <+: g.states.names := (build_spec h).1
  have hids : ∀ i : Nat, g.entryOf (0 + i) = g.entryNodes[i]? := fun i => by
    rw [Nat.zero_add, entryOf_eq h, entryNodes_eq h]
  have hall : g.entryPoints = g.states.names.zip g.entryNodes := by
    rw [entryPoints, NameTable.entries, List.filterMap_map]
    exact filterMap_entryOf g.states.names 0 g.entryNodes hids
  have hzip := @List.zip_append _ _ grammar.stateNames more g.entryNodes [] (length_entryNodes h)
  rwa [hmore, List.append_nil, List.zip_nil_right, List.append_nil, ← hall] at hzip

theorem definedStates_eq : g.definedStates = grammar.stateNames := by
  rw [definedStates, entryPoints_eq h]
  exact List.map_fst_zip (Nat.le_of_eq (length_entryNodes h))

theorem mem_dangling {id : Nat} {missing : String} (hmissing : g.missing? id = some missing) :
    ∃ name, (name, missing) ∈ g.dangling := by
  have hid : id < g.nodes.size := by
    by_contra hge
    have hnone : g.node? id = none := Array.getElem?_eq_none (Nat.le_of_not_lt hge)
    rw [missing?, hnone] at hmissing
    cases hmissing
  have hmem := List.mem_range.2 hid
  rw [← flatMap_preorder h] at hmem
  obtain ⟨entry, hentry, hwalk⟩ := List.mem_flatMap.1 hmem
  obtain ⟨⟨name, _⟩, hpoint, rfl⟩ : ∃ p ∈ g.entryPoints, p.2 = entry := by
    rw [entryPoints_eq h]
    rw [← List.map_snd_zip (Nat.le_of_eq (length_entryNodes h).symm)] at hentry
    exact List.mem_map.1 hentry
  refine ⟨name, List.mem_append_right _ (List.mem_flatMap.2 ⟨_, hpoint, ?_⟩)⟩
  exact List.mem_map.2 ⟨missing, List.mem_filterMap.2 ⟨id, hwalk, hmissing⟩, rfl⟩

/-- **Every invocation has a state to invoke** in a graph that refers to no missing ones. -/
theorem exists_entryOf (hd : g.dangling = []) {id target : Nat} {node : GraphNode} {r : Repetition}
    (hn : g.node? id = some node) (hstep : node.step = .subState target r) :
    ∃ entry, g.entryOf target = some entry := by
  cases he : g.entryOf target with
  | some entry => exact ⟨entry, rfl⟩
  | none =>
    have hmissing : g.missing? id = some (g.states.name target) := by
      simp [missing?, hn, hstep, he]
    obtain ⟨name, hlisted⟩ := mem_dangling h hmissing
    rw [hd] at hlisted
    cases hlisted

theorem root_mem_stateNames (hd : g.dangling = []) : grammar.root ∈ grammar.stateNames := by
  rw [← isSome_entry h, ← (lowerEach_build h).2.2]
  have hroot := (List.append_eq_nil_iff.1 hd).1
  cases he : g.entry g.root with
  | some entry => rfl
  | none => simp [he] at hroot

/-! ## References -/

theorem missing?_of_lays {id : Nat} {node : GraphNode} {t : Tree} (hn : g.node? id = some node)
    (hlays : Lays engine g.names id node t) : g.missing? id = grammar.undefined? t.node := by
  rw [missing?, hn, Option.map_some, Grammar.undefined?]
  have hd := hlays.step
  generalize node.step = step at hd
  generalize t.node = written at hd
  cases hd with
  | @subState i target r hi =>
    have hrel := entryOf_rel h hi
    have hstate := isSome_state? grammar target
    rw [states_names] at hi
    simp only [Node.target?, Option.filter_some, ← hstate, NameTable.name_of_name? hi]
    generalize g.entryOf i = entry at hrel
    generalize grammar.state? target = state at hrel
    cases hrel <;> simp
  | _ => rfl

theorem filterMap_missing? {us : List Tree} : ∀ {start : Nat}, g.Laid engine start us →
    (List.range' start us.length).filterMap g.missing? =
      us.filterMap fun u => grammar.undefined? u.node := by
  induction us with
  | nil => intro start _; rfl
  | cons u us ih =>
    intro start hlaid
    obtain ⟨node, hn, hlays⟩ := hlaid.head
    rw [List.length_cons, List.range'_succ, List.filterMap_cons, List.filterMap_cons,
      missing?_of_lays h hn hlays, ih hlaid.tail]

/-- The walks from the entries of states find what is missing in their trees. -/
theorem flatMap_missing? {ts : List Tree} (hnamed : ∀ t ∈ ts, t.stateName?.isSome) :
    ∀ {start : Nat}, g.Laid engine start (Tree.allSubtrees ts) → Tree.sizes ts ≤ g.nodes.size →
      (((Tree.stateNames ts).zip (positions start ts)).flatMap fun (name, id) =>
          ((g.preorder id).filterMap g.missing?).map fun missing => (name, missing)) =
        (ts.flatMap fun t => t.subtrees.map fun u => (t.stateName?.getD "", u)).filterMap fun u =>
          (grammar.undefined? u.2.node).map fun missing => (u.1, missing) := by
  induction ts with
  | nil => intro start _ _; rfl
  | cons t ts ih =>
    intro start hlaid hle
    obtain ⟨name, hname⟩ := Option.isSome_iff_exists.1 (hnamed t List.mem_cons_self)
    have hnames : Tree.stateNames (t :: ts) = name :: Tree.stateNames ts := by
      rw [Tree.stateNames, List.filterMap_cons, hname, Tree.stateNames]
    rw [Tree.allSubtrees] at hlaid
    rw [Tree.sizes] at hle
    have hrest := hlaid.right
    rw [Tree.length_subtrees] at hrest
    have hfirst := filterMap_missing? h hlaid.left
    rw [Tree.length_subtrees] at hfirst
    rw [hnames, positions, List.zip_cons_cons, List.flatMap_cons,
      ih (fun u hu => hnamed u (List.mem_cons_of_mem _ hu)) hrest (by omega), List.flatMap_cons,
      List.filterMap_append, List.filterMap_map, hname]
    dsimp only
    rw [preorder_eq hlaid.left (by omega), hfirst, List.map_filterMap]
    rfl

/-- **The walks find what the grammar does not define**, each reference under the state whose tree it is
    in, after the root under the empty name. -/
theorem dangling_eq : g.dangling =
    (if grammar.root ∈ grammar.stateNames then [] else [("", grammar.root)]) ++ grammar.unresolved := by
  have hroot : (g.entry grammar.root).isNone = true ↔ grammar.root ∉ grammar.stateNames := by
    rw [← isSome_entry h]
    simp
  have hstates := flatMap_missing? h grammar.named (laid_build h) (Nat.le_of_eq (size_build h).symm)
  rw [dangling, entryPoints_eq h, entryNodes_eq h, (lowerEach_build h).2.2]
  simp only [hroot, ite_not]
  exact congrArg _ hstates

end

end Graph

end GraphLexer
