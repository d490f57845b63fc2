/-
Making a grammar of trees.

Trees make a grammar exactly if each of them defines a state and no two of them the same one, and the
grammar lists them as they are. Otherwise the error is about the first tree that does not fit
(`ofStates_eq_error`).

A grammar holds no keys: a state is found by the name in its tree. This comes to the same as entering the
trees one after the other into a table under their names (`enterAll_eq`). So what is found under a name in
the table is the state of this name (`state?_eq_lookup`).
-/
import Mathlib.Data.List.Nodup
import GraphLexer.Grammar.Binary
import GraphLexer.Grammar.Document

namespace GraphLexer.Grammar

variable {root : String} {ts : List Tree} {e : GrammarError} {g : Grammar}

/-! ## The first tree that does not fit -/

/-- A tree does not fit among those before it. -/
inductive Misfit (ts : List Tree) (i : Nat) : GrammarError → Prop
  /-- it defines no state -/
  | notAState {t : Tree} : ts[i]? = some t → t.stateName? = none → Misfit ts i (.notAState i t.node)
  /-- it defines the state that an earlier one defines -/
  | duplicateState {t earlier : Tree} {j : Nat} {name : String} : ts[i]? = some t → t.stateName? = some name →
      j < i → ts[j]? = some earlier → earlier.stateName? = some name → Misfit ts i (.duplicateState name)

/-- The error is about the first tree that does not fit. -/
def FirstMisfit (ts : List Tree) (e : GrammarError) : Prop :=
  ∃ i, Misfit ts i e ∧ ∀ j < i, ∀ e', ¬ Misfit ts j e'

theorem Misfit.unique {i : Nat} {e e' : GrammarError} (h : Misfit ts i e) (h' : Misfit ts i e') : e = e' := by
  cases h <;> cases h' <;> simp_all

theorem FirstMisfit.unique {e e' : GrammarError} (h : FirstMisfit ts e) (h' : FirstMisfit ts e') : e = e' := by
  obtain ⟨i, hi, hbefore⟩ := h
  obtain ⟨j, hj, hbefore'⟩ := h'
  rcases Nat.lt_trichotomy i j with hlt | rfl | hlt
  · exact absurd hi (hbefore' i hlt e)
  · exact hi.unique hj
  · exact absurd hj (hbefore j hlt e')

theorem Misfit.lt_length {i : Nat} (h : Misfit ts i e) : i < ts.length := by
  cases h with
  | notAState ht | duplicateState ht => exact (List.getElem?_eq_some_iff.1 ht).1

theorem mem_stateNames {name : String} : name ∈ Tree.stateNames ts ↔
    ∃ (j : Nat) (t : Tree), ts[j]? = some t ∧ t.stateName? = some name := by
  rw [Tree.stateNames, List.mem_filterMap]
  constructor
  · rintro ⟨t, ht, hname⟩
    obtain ⟨j, hj⟩ := List.mem_iff_getElem?.1 ht
    exact ⟨j, t, hj, hname⟩
  · rintro ⟨j, t, hj, hname⟩
    exact ⟨t, List.mem_of_getElem? hj, hname⟩

/-- Whether a tree fits is seen from the names before it. -/
theorem misfit_append {before : List Tree} {t : Tree} : Misfit (before ++ t :: ts) before.length e ↔
    (t.stateName? = none ∧ e = .notAState before.length t.node) ∨
      ∃ name, t.stateName? = some name ∧ name ∈ Tree.stateNames before ∧ e = .duplicateState name := by
  have ht : (before ++ t :: ts)[before.length]? = some t := by
    rw [List.getElem?_append_right (Nat.le_refl _), Nat.sub_self, List.getElem?_cons_zero]
  have hbefore : ∀ {j : Nat}, j < before.length → (before ++ t :: ts)[j]? = before[j]? :=
    fun hj => List.getElem?_append_left hj
  constructor
  · rintro (⟨hu, hnone⟩ | ⟨hu, hname, hj, hearlier, hsame⟩)
    · cases ht.symm.trans hu
      exact Or.inl ⟨hnone, rfl⟩
    · cases ht.symm.trans hu
      rw [hbefore hj] at hearlier
      exact Or.inr ⟨_, hname, mem_stateNames.2 ⟨_, _, hearlier, hsame⟩, rfl⟩
  · rintro (⟨hnone, rfl⟩ | ⟨name, hname, hmem, rfl⟩)
    · exact .notAState ht hnone
    · obtain ⟨j, earlier, hearlier, hsame⟩ := mem_stateNames.1 hmem
      have hj : j < before.length := (List.getElem?_eq_some_iff.1 hearlier).1
      exact .duplicateState ht hname hj ((hbefore hj).trans hearlier) hsame

/-- Where the trees before fit, the fault that is found is about the first tree that does not, and there
    is none if all of them fit. -/
theorem firstFault_spec : ∀ (ts before : List Tree) (seen : List String),
    (∀ name, name ∈ seen ↔ name ∈ Tree.stateNames before) →
    (∀ j < before.length, ∀ e, ¬ Misfit (before ++ ts) j e) →
    (∀ e, firstFault before.length seen ts = some e → FirstMisfit (before ++ ts) e) ∧
      (firstFault before.length seen ts = none → ∀ i e, ¬ Misfit (before ++ ts) i e)
  | [], before, seen, _, hfit => by
    refine ⟨fun e h => (Option.some_ne_none e h.symm).elim, fun _ i e h => hfit i ?_ e h⟩
    have := h.lt_length
    rwa [List.append_nil] at this
  | t :: ts, before, seen, hseen, hfit => by
    unfold firstFault
    split
    · next hnone =>
      refine ⟨?_, fun h => by cases h⟩
      rintro _ ⟨⟩
      exact ⟨_, misfit_append.2 (Or.inl ⟨hnone, rfl⟩), hfit⟩
    · next name hname =>
      split
      · next hmem =>
        refine ⟨?_, fun h => by cases h⟩
        rintro _ ⟨⟩
        exact ⟨_, misfit_append.2 (Or.inr ⟨name, hname, (hseen name).1 hmem, rfl⟩), hfit⟩
      · next hmem =>
        -- the tree fits, so the next ones are seen after it
        have hnow : ∀ e, ¬ Misfit (before ++ t :: ts) before.length e := by
          intro e h
          rcases misfit_append.1 h with ⟨hnone, -⟩ | ⟨name', hname', hmem', -⟩
          · cases hname.symm.trans hnone
          · cases hname.symm.trans hname'
            exact hmem ((hseen name).2 hmem')
        have hseen' : ∀ n, n ∈ name :: seen ↔ n ∈ Tree.stateNames (before ++ [t]) := by
          intro n
          have hnames : Tree.stateNames (before ++ [t]) = Tree.stateNames before ++ [name] := by
            simp [Tree.stateNames, hname]
          rw [hnames, List.mem_cons, List.mem_append, List.mem_singleton, hseen, or_comm]
        have hfit' : ∀ j < (before ++ [t]).length, ∀ e, ¬ Misfit (before ++ t :: ts) j e := by
          intro j hj
          rw [List.length_append, List.length_singleton] at hj
          rcases Nat.lt_succ_iff_lt_or_eq.1 hj with hlt | rfl
          · exact hfit j hlt
          · exact hnow
        have hnext := firstFault_spec ts (before ++ [t]) (name :: seen) hseen'
        rw [List.append_assoc, List.singleton_append, List.length_append] at hnext
        exact hnext (by rwa [List.length_append] at hfit')

theorem ofStates_eq_ok : ofStates root ts = .ok g ↔ g.root = root ∧ g.states = ts := by
  constructor
  · intro h
    unfold ofStates at h
    split at h
    · cases h
    · cases h
      exact ⟨rfl, rfl⟩
  · rintro ⟨rfl, rfl⟩
    exact ofStates_states g

theorem ofStates_eq_error : ofStates root ts = .error e ↔ FirstMisfit ts e := by
  have hspec := firstFault_spec ts [] [] (by simp [Tree.stateNames]) (by simp)
  unfold ofStates
  split
  · next e' he' =>
    have hfirst := hspec.1 e' he'
    constructor
    · rintro ⟨⟩
      exact hfirst
    · intro h
      rw [hfirst.unique h]
  · next hnone =>
    constructor
    · rintro ⟨⟩
    · rintro ⟨i, hi, -⟩
      exact absurd hi (hspec.2 hnone i e)

theorem exists_ofStates : (∃ g, ofStates root ts = .ok g) ↔
    (∀ t ∈ ts, t.stateName?.isSome) ∧ (Tree.stateNames ts).Nodup := by
  constructor
  · rintro ⟨g, hg⟩
    obtain ⟨-, rfl⟩ := ofStates_eq_ok.1 hg
    exact ⟨g.named, g.distinct⟩
  · rintro ⟨named, distinct⟩
    exact ⟨⟨root, ts, named, distinct⟩, ofStates_eq_ok.2 ⟨rfl, rfl⟩⟩

/-! ## Trees under names -/

/-- Trees under keys, in the order in which they were entered. -/
abbrev Table := List (String × Tree)

/-- Enters a tree under the name of its state, unless there is one under this name. -/
def enter (index : Nat) (table : Table) (t : Tree) : Except GrammarError Table :=
  match t.stateName? with
  | none => .error (.notAState index t.node)
  | some name =>
    if name ∈ table.map Prod.fst then .error (.duplicateState name) else .ok (table ++ [(name, t)])

/-- Enters trees one after the other. -/
def enterAll (index : Nat) (table : Table) : List Tree → Except GrammarError Table
  | [] => .ok table
  | t :: ts =>
    match enter index table t with
    | .error e => .error e
    | .ok table => enterAll (index + 1) table ts

/-- Trees under the names of their states. -/
def keyed (ts : List Tree) : Table :=
  ts.filterMap fun t => t.stateName?.map fun name => (name, t)

/-- The states of a grammar under their names. -/
def table (g : Grammar) : Table :=
  keyed g.states

theorem stateName?_of_mem_keyed {entry : String × Tree} (h : entry ∈ keyed ts) :
    entry.2.stateName? = some entry.1 := by
  obtain ⟨t, -, h⟩ := List.mem_filterMap.1 h
  obtain ⟨name, hname, rfl⟩ := Option.map_eq_some_iff.1 h
  exact hname

theorem keyed_cons {t : Tree} {name : String} (h : t.stateName? = some name) :
    keyed (t :: ts) = (name, t) :: keyed ts := by
  rw [keyed, List.filterMap_cons, h, Option.map_some, keyed]

theorem map_fst_keyed (ts : List Tree) : (keyed ts).map Prod.fst = Tree.stateNames ts := by
  rw [keyed, Tree.stateNames, List.map_filterMap]
  exact congrArg (List.filterMap · ts) (funext fun t => by simp [Function.comp_def])

theorem map_snd_keyed (h : ∀ t ∈ ts, t.stateName?.isSome) : (keyed ts).map Prod.snd = ts := by
  induction ts with
  | nil => rfl
  | cons t ts ih =>
    obtain ⟨name, hname⟩ := Option.isSome_iff_exists.1 (h t List.mem_cons_self)
    rw [keyed_cons hname, List.map_cons, ih fun u hu => h u (List.mem_cons_of_mem _ hu)]

/-- What is found under a key is the first tree that defines the state of this name. -/
theorem lookup_keyed (ts : List Tree) (name : String) :
    (keyed ts).lookup name = ts.find? fun t => t.stateName? == some name := by
  induction ts with
  | nil => rfl
  | cons t ts ih =>
    rw [List.find?_cons]
    cases hname : t.stateName? with
    | none =>
      rw [← ih, keyed, List.filterMap_cons, hname]
      rfl
    | some other =>
      rw [keyed_cons hname, List.lookup_cons, ih, Option.some_beq_some, Bool.beq_comm]

/-- Entering trees refuses what does not fit, and else puts all of them under their names. -/
theorem enterAll_spec : ∀ (ts : List Tree) (index : Nat) (table : Table) (seen : List String),
    (∀ name, name ∈ seen ↔ name ∈ table.map Prod.fst) →
    enterAll index table ts =
      match firstFault index seen ts with
      | some e => .error e
      | none => .ok (table ++ keyed ts)
  | [], index, table, seen, _ => by rw [enterAll, firstFault, keyed, List.filterMap_nil, List.append_nil]
  | t :: ts, index, table, seen, hseen => by
    rw [enterAll, enter, firstFault]
    cases hname : t.stateName? with
    | none => rfl
    | some name =>
      dsimp only
      by_cases hmem : name ∈ seen
      · rw [if_pos hmem, if_pos ((hseen name).1 hmem)]
      · have hseen' : ∀ n, n ∈ name :: seen ↔ n ∈ (table ++ [(name, t)]).map Prod.fst := by
          intro n
          rw [List.map_append, List.map_singleton, List.mem_cons, List.mem_append, List.mem_singleton, hseen,
            or_comm]
        have hnext := enterAll_spec ts (index + 1) (table ++ [(name, t)]) (name :: seen) hseen'
        rw [List.append_assoc, List.singleton_append, ← keyed_cons hname] at hnext
        rw [if_neg hmem, if_neg (mt (hseen name).2 hmem)]
        exact hnext

/-- **A grammar is made as its trees are entered into a table**: it is refused with the same error, and
    else its states are the table. -/
theorem enterAll_eq (root : String) (ts : List Tree) : enterAll 0 [] ts = (ofStates root ts).map table := by
  rw [enterAll_spec ts 0 [] [] fun _ => Iff.rfl]
  cases hg : ofStates root ts with
  | error e =>
    unfold ofStates at hg
    split at hg
    · next hfault =>
      cases hg
      rw [hfault]
      rfl
    · cases hg
  | ok g =>
    obtain ⟨-, rfl⟩ := ofStates_eq_ok.1 hg
    have hnone : firstFault 0 [] g.states = none :=
      firstFault_of_distinct g.named g.distinct fun _ _ => List.not_mem_nil
    rw [hnone]
    rfl

theorem state?_eq_lookup (g : Grammar) (name : String) : g.state? name = g.table.lookup name :=
  (lookup_keyed g.states name).symm

/-! ## What a grammar lists -/

/-- A grammar lists trees in their order, each under the name of its state. -/
structure Lists (g : Grammar) (ts : List Tree) : Prop where
  /-- the trees are entered without a fault -/
  entered : enterAll 0 [] ts = .ok g.table
  trees : g.table.map Prod.snd = ts
  named : ∀ entry ∈ g.table, entry.2.stateName? = some entry.1
  distinct : (g.table.map Prod.fst).Nodup
  lookup : ∀ name, g.state? name = g.table.lookup name
  /-- what is found under a name is the tree that defines this state -/
  state : ∀ name t, g.state? name = some t ↔ t ∈ ts ∧ t.stateName? = some name

/-- No two trees of a grammar define the same state. -/
theorem eq_of_stateName? {t u : Tree} {name : String} (ht : t ∈ g.states) (hu : u ∈ g.states)
    (htname : t.stateName? = some name) (huname : u.stateName? = some name) : t = u := by
  have hkeys : (g.table.map Prod.fst).Nodup := by
    rw [table, map_fst_keyed]
    exact g.distinct
  have hmem : ∀ {v : Tree}, v ∈ g.states → v.stateName? = some name → (name, v) ∈ g.table := by
    intro v hv hname
    exact List.mem_filterMap.2 ⟨v, hv, by rw [hname]; rfl⟩
  exact congrArg Prod.snd (List.inj_on_of_nodup_map hkeys (hmem ht htname) (hmem hu huname) rfl)

theorem state?_eq_some {name : String} {t : Tree} :
    g.state? name = some t ↔ t ∈ g.states ∧ t.stateName? = some name := by
  constructor
  · intro h
    exact ⟨List.mem_of_find?_eq_some h, by simpa using List.find?_some h⟩
  · rintro ⟨ht, hname⟩
    have hsome : (g.state? name).isSome := by
      rw [state?, List.find?_isSome]
      exact ⟨t, ht, by simp [hname]⟩
    obtain ⟨u, hu⟩ := Option.isSome_iff_exists.1 hsome
    have huname : u.stateName? = some name := by simpa using List.find?_some hu
    rw [hu, eq_of_stateName? (List.mem_of_find?_eq_some hu) ht huname hname]

theorem lists_states (g : Grammar) : g.Lists g.states where
  entered := by rw [enterAll_eq g.root, ofStates_states, Except.map]
  trees := map_snd_keyed g.named
  named _ := stateName?_of_mem_keyed
  distinct := (map_fst_keyed g.states).symm ▸ g.distinct
  lookup := g.state?_eq_lookup
  state _ _ := state?_eq_some

theorem lists_of_ofStates (h : ofStates root ts = .ok g) : g.root = root ∧ g.Lists ts := by
  obtain ⟨hroot, rfl⟩ := ofStates_eq_ok.1 h
  exact ⟨hroot, g.lists_states⟩

theorem lists_of_ofJson {text : String} (h : ofJson text = .ok g) :
    ∃ ts, readDocument text.toList = .ok (g.root, ts) ∧ g.Lists ts := by
  unfold ofJson at h
  split at h
  · cases h
  · next root ts hread =>
    obtain ⟨rfl, hlists⟩ := lists_of_ofStates h
    exact ⟨ts, hread, hlists⟩

theorem lists_of_ofBinary {bytes : List UInt8} (h : ofBinary bytes = .ok g) :
    ∃ ts, readBinary bytes = .ok (g.root, ts) ∧ g.Lists ts := by
  unfold ofBinary at h
  split at h
  · cases h
  · next root ts hread =>
    obtain ⟨rfl, hlists⟩ := lists_of_ofStates h
    exact ⟨ts, hread, hlists⟩

/-- **Trees make a grammar exactly if each defines a state of its own**, and the grammar lists them;
    otherwise the error is about the first one that does not fit. A grammar that is read, from a text or from
    bytes, lists the trees that were read. -/
theorem ofStates_lists :
    (∀ root ts,
      ((∃ g, ofStates root ts = .ok g) ↔
        (∀ t ∈ ts, t.stateName?.isSome) ∧ (Tree.stateNames ts).Nodup) ∧
      (∀ g, ofStates root ts = .ok g → g.root = root ∧ g.Lists ts) ∧
      (∀ e, ofStates root ts = .error e ↔ FirstMisfit ts e) ∧
      enterAll 0 [] ts = (ofStates root ts).map table) ∧
    (∀ text g, ofJson text = .ok g → ∃ ts, readDocument text.toList = .ok (g.root, ts) ∧ g.Lists ts) ∧
    ∀ bytes g, ofBinary bytes = .ok g → ∃ ts, readBinary bytes = .ok (g.root, ts) ∧ g.Lists ts :=
  ⟨fun root ts =>
      ⟨exists_ofStates, fun _ => lists_of_ofStates, fun _ => ofStates_eq_error, enterAll_eq root ts⟩,
    fun _ _ => lists_of_ofJson, fun _ _ => lists_of_ofBinary⟩

/-- A state with a literal. -/
def lettered (name text : String) : Tree :=
  .plain (.state name) [.plain (.literal text) []]

/-- A state that is defined again comes first, or a tree that defines none does. The bytes of two states are
    read as these. -/
theorem lettered_lists :
    FirstMisfit [lettered "A" "a", lettered "B" "b", lettered "A" "c", .plain (.literal "x") []]
        (.duplicateState "A") ∧
      FirstMisfit [lettered "A" "a", .plain (.literal "x") [], lettered "A" "c"]
        (.notAState 1 (.literal "x")) ∧
      ∃ g, ofBinary [1, 65, 2, 0, 0, 1, 66, 0, 0, 0, 1, 65, 0] = .ok g ∧
        g.Lists [.plain (.state "B") [], .plain (.state "A") []] := by
  refine ⟨((ofStates_lists.1 "A" _).2.2.1 _).1 rfl, ((ofStates_lists.1 "A" _).2.2.1 _).1 rfl, ?_⟩
  have hread : readBinary [1, 65, 2, 0, 0, 1, 66, 0, 0, 0, 1, 65, 0] =
      .ok ("A", [.plain (.state "B") [], .plain (.state "A") []]) := rfl
  obtain ⟨g, hg⟩ : ∃ g, ofBinary [1, 65, 2, 0, 0, 1, 66, 0, 0, 0, 1, 65, 0] = .ok g := ⟨_, rfl⟩
  obtain ⟨ts, hts, hlists⟩ := ofStates_lists.2.2 _ g hg
  obtain rfl := (Prod.mk.inj (Except.ok.inj (hread.symm.trans hts))).2
  exact ⟨g, hg, hlists⟩

end GraphLexer.Grammar
