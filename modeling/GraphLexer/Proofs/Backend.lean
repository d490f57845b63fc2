/-
The answers of a backend are those of the evaluation.

A backend answers in numbers, and gives out the tables in which they have names. Every number of an answer
is in use in its table (`indexed_flatOutcome`), so putting the names back gives the outcome of the
evaluation (`resolve_flatOutcome`). A handle stays good when further grammars are loaded, and it does not
matter in which form a grammar was loaded (`evaluate_loaded`).
-/
import GraphLexer.Backend.Basic
import GraphLexer.Proofs.Attempt.Named
import GraphLexer.Proofs.Evaluator.Within
import GraphLexer.Proofs.Grammar.Binary
import GraphLexer.Proofs.Tag.Flat

namespace GraphLexer

/-! ## Tables -/

namespace NameTable

variable {t : NameTable} {name : String} {i : Nat}

theorem name_mem (h : (t.name? i).isSome) : t.name i ∈ t.names := by
  obtain ⟨name, hname⟩ := Option.isSome_iff_exists.1 h
  rw [name_of_name? hname]
  exact List.mem_of_getElem? hname

/-- A name of the table has a number, and the number leads back to it. -/
theorem exists_index (h : name ∈ t.names) :
    t.name? ((t.find? name).getD FlatResult.noIndex) = some name := by
  cases hf : t.find? name with
  | some i => exact find?_eq_some.1 hf
  | none => exact absurd h (find?_eq_none.1 hf)

theorem nameIn_entries (h : t.name? i = some name) : FlatResult.nameIn t.entries i = name := by
  have hmem : (i, name) ∈ t.entries.filter (·.1 == i) :=
    List.mem_filter.2 ⟨mem_entries.2 h, by simp⟩
  obtain ⟨last, hlast⟩ := Option.isSome_iff_exists.1 (List.getLast?_isSome.2 (List.ne_nil_of_mem hmem))
  obtain ⟨hin, heq⟩ := List.mem_filter.1 (List.mem_of_getLast? hlast)
  obtain ⟨j, name'⟩ := last
  have hj : j = i := by simpa using heq
  subst hj
  have hname : name' = name := Option.some.inj ((mem_entries.1 hin).symm.trans h)
  rw [FlatResult.nameIn, hlast, hname]
  rfl

end NameTable

/-! ## Results -/

/-- An outcome as other engines see it: a rejection is an empty match without tags. -/
def Outcome.resolved : Outcome → Resolved
  | .matched len tags => ⟨len, tags, none⟩
  | .noMatch => ⟨0, [], none⟩
  | .failed e => ⟨0, [], some e⟩

/-- The names in an outcome are those of a graph. -/
def Outcome.NamedBy (g : Graph) : Outcome → Prop
  | .matched _ tags => ∀ name ∈ Tag.allNames tags, name ∈ g.tags.names
  | .noMatch => True
  | .failed e => (∀ name ∈ e.tagStack, name ∈ g.tags.names) ∧ ∀ name ∈ e.stateStack, name ∈ g.states.names

namespace FlatResult

def tagIndices (r : FlatResult) : List Nat :=
  r.tags.map (·.node) ++ (r.error.map (·.tagStack)).getD []

def stateIndices (r : FlatResult) : List Nat :=
  (r.error.map (·.stateStack)).getD []

/-- All numbers of a result have names in the tables, so none of them stands for a missing name. -/
structure Indexed (r : FlatResult) (tagNames stateNames : List (Nat × String)) : Prop where
  tags : ∀ i ∈ r.tagIndices, i < tagNames.length ∧ ∃ name, (i, name) ∈ tagNames
  states : ∀ i ∈ r.stateIndices, i < stateNames.length ∧ ∃ name, (i, name) ∈ stateNames

/-- The number for a missing name does not occur, unless there is a name for every number below it. -/
theorem Indexed.noIndex_notMem {r : FlatResult} {tagNames stateNames : List (Nat × String)}
    (h : r.Indexed tagNames stateNames) :
    (tagNames.length ≤ noIndex → noIndex ∉ r.tagIndices) ∧
      (stateNames.length ≤ noIndex → noIndex ∉ r.stateIndices) := by
  constructor
  · intro hle hmem
    have := (h.tags _ hmem).1
    omega
  · intro hle hmem
    have := (h.states _ hmem).1
    omega

end FlatResult

mutual

theorem FlatTag.exists_name_of_mem_ofTag {indexOf : String → Nat} : ∀ {layer : Nat} {t : Tag String},
    ∀ e ∈ ofTag indexOf layer t, ∃ name ∈ t.names, e.node = indexOf name
  | layer, ⟨name, index, len, subTags⟩, e, he => by
    rw [ofTag, List.mem_append, List.mem_singleton] at he
    rw [Tag.names]
    rcases he with he | rfl
    · obtain ⟨name', hmem, hnode⟩ := exists_name_of_mem_ofForest e he
      exact ⟨name', List.mem_cons_of_mem _ hmem, hnode⟩
    · exact ⟨name, List.mem_cons_self, rfl⟩

theorem FlatTag.exists_name_of_mem_ofForest {indexOf : String → Nat} : ∀ {layer : Nat}
    {ts : List (Tag String)}, ∀ e ∈ ofForest indexOf layer ts, ∃ name ∈ Tag.allNames ts, e.node = indexOf name
  | _, t :: ts, e, he => by
    rw [ofForest, List.mem_append] at he
    rw [Tag.allNames]
    rcases he with he | he
    · obtain ⟨name, hmem, hnode⟩ := exists_name_of_mem_ofTag e he
      exact ⟨name, List.mem_append_left _ hmem, hnode⟩
    · obtain ⟨name, hmem, hnode⟩ := exists_name_of_mem_ofForest e he
      exact ⟨name, List.mem_append_right _ hmem, hnode⟩

end

namespace Backend

variable {graph : Graph} {o : Outcome}

theorem map_nameIn {t : NameTable} {names : List String} (h : ∀ name ∈ names, name ∈ t.names) :
    (names.map fun name => (t.find? name).getD FlatResult.noIndex).map (FlatResult.nameIn t.entries) =
      names := by
  rw [List.map_map]
  refine (List.map_congr_left fun name hmem => ?_).trans (List.map_id _)
  exact NameTable.nameIn_entries (NameTable.exists_index (h name hmem))

/-- **Putting the names back gives the outcome.** -/
theorem resolve_flatOutcome (h : o.NamedBy graph) :
    (flatOutcome graph o).resolve graph.tags.entries graph.states.entries = o.resolved := by
  cases o with
  | matched len tags =>
    have hback : Tag.maps (FlatResult.nameIn graph.tags.entries ∘ fun name =>
        (graph.tags.find? name).getD FlatResult.noIndex) id tags = tags :=
      (Tag.maps_eq_self_iff tags).2 fun name hmem =>
        NameTable.nameIn_entries (NameTable.exists_index (h name hmem))
    simp only [flatOutcome, FlatResult.resolve, FlatTag.unflatten_flatten_eq_maps, hback,
      Outcome.resolved, Option.map_none]
  | noMatch => rfl
  | failed e =>
    obtain ⟨htags, hstates⟩ := h
    simp only [flatOutcome, FlatResult.resolve, FailureKind.kind_flat, map_nameIn htags, map_nameIn hstates,
      Outcome.resolved, Option.map_some]
    rfl

theorem mem_entries_of_index {t : NameTable} {name : String} (h : name ∈ t.names) :
    (t.find? name).getD FlatResult.noIndex < t.entries.length ∧
      ∃ name', ((t.find? name).getD FlatResult.noIndex, name') ∈ t.entries := by
  have hname := NameTable.exists_index h
  exact ⟨NameTable.length_entries t ▸ NameTable.lt_size hname, name, NameTable.mem_entries.2 hname⟩

/-- **Every number of an answer has a name.** -/
theorem indexed_flatOutcome (h : o.NamedBy graph) :
    (flatOutcome graph o).Indexed graph.tags.entries graph.states.entries := by
  cases o with
  | matched len tags =>
    refine ⟨fun i hi => ?_, fun i hi => absurd hi List.not_mem_nil⟩
    rw [FlatResult.tagIndices, flatOutcome, Option.map_none, Option.getD_none, List.append_nil] at hi
    obtain ⟨e, he, rfl⟩ := List.mem_map.1 hi
    obtain ⟨name, hmem, hnode⟩ := FlatTag.exists_name_of_mem_ofForest e he
    rw [hnode]
    exact mem_entries_of_index (h name hmem)
  | noMatch => exact ⟨fun i hi => absurd hi List.not_mem_nil, fun i hi => absurd hi List.not_mem_nil⟩
  | failed e =>
    obtain ⟨htags, hstates⟩ := h
    refine ⟨fun i hi => ?_, fun i hi => ?_⟩
    · obtain ⟨name, hmem, rfl⟩ := List.mem_map.1 (show i ∈ e.tagStack.map _ from hi)
      exact mem_entries_of_index (htags name hmem)
    · obtain ⟨name, hmem, rfl⟩ := List.mem_map.1 (show i ∈ e.stateStack.map _ from hi)
      exact mem_entries_of_index (hstates name hmem)

theorem namedBy_of_evaluate {g : Grammar} (hg : Graph.ofGrammar g = .ok graph) {entry : String}
    {limits : Limits} {input : String}
    (h : (Evaluator.mk graph entry limits).evaluate input = some o) : o.NamedBy graph := by
  rw [Evaluator.evaluate, Evaluator.evaluateTraced, Evaluator.attempt_eq] at h
  generalize Evaluator.patience limits (Source.ofText input) = patience at h
  have hnamed := @Attempt.visit_named
    (Evaluator.setting ⟨graph, entry, limits⟩ patience (Source.ofText input))
    (fun _ _ => Graph.resolves_build hg) input rfl limits.depth.toNat
  cases o with
  | matched len tags =>
    obtain ⟨id, p, hv, -, rfl⟩ := Evaluator.visit_of_matched h
    have hp := hnamed id 0 0
    rw [hv] at hp
    intro name hmem
    rw [Tag.allNames_maps] at hmem
    obtain ⟨tag, htag, rfl⟩ := List.mem_map.1 hmem
    exact NameTable.name_mem (hp.2 tag htag)
  | noMatch => trivial
  | failed e =>
    rcases Evaluator.visit_of_failed h with ⟨-, rfl⟩ | ⟨id, f, -, hv, rfl⟩
    · exact ⟨fun _ hmem => absurd hmem List.not_mem_nil, fun _ hmem => absurd hmem List.not_mem_nil⟩
    · have hf := hnamed id 0 0
      rw [hv] at hf
      refine ⟨fun name hmem => ?_, fun name hmem => ?_⟩
      · obtain ⟨tag, htag, rfl⟩ := List.mem_map.1 (List.mem_reverse.1 hmem)
        exact NameTable.name_mem (hf.1 tag htag)
      · obtain ⟨state, hstate, rfl⟩ := List.mem_map.1 (List.mem_reverse.1 hmem)
        exact NameTable.name_mem (hf.2 state hstate)

/-! ## Loaded grammars -/

/-- A handle leads to its graph, also when further grammars have been loaded. -/
theorem model_of_prefix {b c : Backend} (h : b.models ++ [graph] <+: c.models) :
    c.model b.models.length = .ok graph := by
  obtain ⟨later, hlater⟩ := h
  have hget : c.models[b.models.length]? = some graph := by
    rw [← hlater, List.append_assoc, List.getElem?_append_right (Nat.le_refl _), Nat.sub_self]
    rfl
  rw [model, hget]

theorem evaluate_eq {c : Backend} {handle i : Nat} {name : String} (hmodel : c.model handle = .ok graph)
    (hi : graph.states.name? i = some name) (input : String) (ticks : UInt32) :
    c.evaluate handle i input ticks =
      .ok (((Evaluator.mk graph name ⟨ticks, Limits.default.depth⟩).evaluate input).map
        (flatOutcome graph)) := by
  have hentry : entryName graph i = name := by
    rw [entryName, hi, Option.getD_some]
  rw [evaluate, hmodel, ← hentry]
  rfl

/-- **A backend answers as the evaluation does.** A grammar that has a graph is loaded, as it is or from
    its binary form. From then on an evaluation from the number of a state, with the names put back, is
    the evaluation from that state on the graph of the grammar, and every number in it has a name. -/
theorem evaluate_loaded (b : Backend) (g : Grammar) (graph : Graph) (hg : Graph.ofGrammar g = .ok graph) :
    ∃ b' handle, b.load g = .ok (b', handle) ∧
      (g.toBinary.length < 2 ^ 64 → b.loadBinary g.toBinary = .ok (b', handle)) ∧
      ∀ c : Backend, b'.models <+: c.models → ∃ tagNames stateNames,
        c.tagNames handle = .ok tagNames ∧ c.stateNames handle = .ok stateNames ∧
        ∀ i name, (i, name) ∈ stateNames → ∀ input ticks, ∃ answer,
          c.evaluate handle i input ticks = .ok answer ∧
          answer.map (·.resolve tagNames stateNames) =
            ((Evaluator.mk graph name ⟨ticks, Limits.default.depth⟩).evaluate input).map
              Outcome.resolved ∧
          ∀ r, answer = some r → r.Indexed tagNames stateNames ∧
            (tagNames.length ≤ FlatResult.noIndex → FlatResult.noIndex ∉ r.tagIndices) ∧
            (stateNames.length ≤ FlatResult.noIndex → FlatResult.noIndex ∉ r.stateIndices) := by
  have hload : b.load g = .ok (⟨b.models ++ [graph]⟩, b.models.length) := by
    rw [load, hg]
  refine ⟨_, _, hload, fun hlen => ?_, fun c hc => ?_⟩
  · have hbinary := Grammar.ofBinary_toBinary hlen []
    rw [List.append_nil] at hbinary
    rw [loadBinary, hbinary]
    exact hload
  · have hmodel := model_of_prefix hc
    refine ⟨graph.tags.entries, graph.states.entries, by rw [tagNames, hmodel]; rfl,
      by rw [stateNames, hmodel]; rfl, fun i name hi input ticks => ?_⟩
    refine ⟨_, evaluate_eq hmodel (NameTable.mem_entries.1 hi) input ticks, ?_, fun r hr => ?_⟩
    · rw [Option.map_map]
      cases ho : (Evaluator.mk graph name ⟨ticks, Limits.default.depth⟩).evaluate input with
      | none => rfl
      | some o => exact congrArg some (resolve_flatOutcome (namedBy_of_evaluate hg ho))
    · obtain ⟨o, ho, rfl⟩ := Option.map_eq_some_iff.1 hr
      have hindexed := indexed_flatOutcome (namedBy_of_evaluate hg ho)
      exact ⟨hindexed, hindexed.noIndex_notMem⟩

/-- Loaded from its bytes, a grammar with a missing state fails with the names of its tags and states, and
    from the missing state at once. -/
theorem evaluate_loaded_incomplete : ∃ b handle tagNames stateNames first second,
    Backend.empty.loadBinary Evaluator.incomplete.toBinary = .ok (b, handle) ∧
      b.tagNames handle = .ok tagNames ∧ b.stateNames handle = .ok stateNames ∧
      b.evaluate handle 0 "ab" 1000 = .ok (some first) ∧ b.evaluate handle 2 "ab" 1000 = .ok (some second) ∧
      first.resolve tagNames stateNames = (Outcome.failed ⟨.unknownNodeKind,
        "Tried to evaluate unknown state: U", ["tag"], ["S", "T"], "a"⟩).resolved ∧
      second.resolve tagNames stateNames = (Outcome.failed ⟨.unknownNodeKind,
        "Tried to evaluate unknown state: U", [], [], ""⟩).resolved := by
  obtain ⟨b, handle, hload, hbinary, hall⟩ := evaluate_loaded .empty Evaluator.incomplete _ rfl
  cases hload
  obtain ⟨tagNames, stateNames, htags, hstates, heval⟩ := hall _ List.prefix_rfl
  have hnames : stateNames = [(0, "S"), (1, "T"), (2, "U")] := by cases hstates; decide +kernel
  subst hnames
  obtain ⟨answer, hfirst, hresolved, -⟩ := heval 0 "S" (by simp) "ab" 1000
  obtain ⟨answer', hsecond, hresolved', -⟩ := heval 2 "U" (by simp) "ab" 1000
  obtain ⟨first, rfl, hnamed⟩ := Option.map_eq_some_iff.1 (hresolved.trans (rfl : _ =
    some (Outcome.failed ⟨.unknownNodeKind, "Tried to evaluate unknown state: U", ["tag"], ["S", "T"],
      "a"⟩).resolved))
  obtain ⟨second, rfl, hnamed'⟩ := Option.map_eq_some_iff.1 (hresolved'.trans (rfl : _ =
    some (Outcome.failed ⟨.unknownNodeKind, "Tried to evaluate unknown state: U", [], [], ""⟩).resolved))
  exact ⟨_, _, tagNames, _, first, second, hbinary (by decide +kernel), htags, hstates, hfirst, hsecond,
    hnamed, hnamed'⟩

end Backend

end GraphLexer
