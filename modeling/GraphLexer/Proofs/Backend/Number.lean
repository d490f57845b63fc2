/-
Numbers of states that are not in use.

A number without a name is evaluated under its digits after a number sign. This is not the name of a
defined state in most grammars, and then the answer is a failure for want of the state, before anything
has happened. But a grammar may define a state of such a name; the answer is then the one for this state,
whatever its number is (`evaluate_unnumbered`).

The answers are told apart by their stacks: a failure that is raised within a state has the name of the
state on its stack, unless it is due to a limit (`states_of_visit`).
-/
import GraphLexer.Proofs.Backend
import GraphLexer.Proofs.Backend.Session

namespace GraphLexer

def FlatResult.unknownState (name : String) : FlatResult :=
  ⟨0, [], some ⟨.unknownNodeKind, (Cause.unknownState name).message, [], [], ""⟩⟩

/-- A state whose visit fails is on the stack of the failure, unless a limit is exceeded. -/
theorem Attempt.states_of_visit {a : Attempt} {levels id pos ticks name : Nat} {node : GraphNode}
    {f : Failure} (hn : a.graph.node? id = some node) (hstep : node.step = .state name)
    (hv : (a.visit levels id pos ticks).verdict = .failed f)
    (hkind : f.cause.kind ≠ .loopLimitExceeded) : f.states ≠ [] := by
  cases levels with
  | zero =>
    rw [visit, Result.verdict_visited, tick] at hv
    split at hv <;> cases hv <;> exact absurd rfl hkind
  | succ levels =>
    rw [visit, Result.verdict_visited, tick] at hv
    split at hv
    · cases hv
      exact absurd rfl hkind
    rw [perform_state hn hstep, transitions] at hv
    split at hv
    · cases hv
    · cases hfirst : (firstOf (fun id => a.visit levels id pos) node.transitions (counted ticks)).verdict with
      | failed inner =>
        rw [Result.mapFailure_of_failed hfirst, hstep] at hv
        cases hv
        simp [record]
      | _ =>
        rw [Result.mapFailure_of_not_failed (by simp [hfirst]), hfirst] at hv
        cases hv

theorem Attempt.log_visit_ne_nil (a : Attempt) (levels id pos ticks : Nat) :
    (a.visit levels id pos ticks).log ≠ [] := by
  cases levels <;> exact List.cons_ne_nil _ _

namespace Backend

/-! ## Undefined states -/

section
variable {g : Grammar} {graph : Graph} (hg : Graph.ofGrammar g = .ok graph)
include hg

theorem exists_entry {name : String} (hname : name ∈ g.stateNames) : ∃ entry node i,
    graph.entry name = some entry ∧ graph.node? entry = some node ∧ node.step = .state i := by
  have hrel := Graph.entry_rel hg name
  obtain ⟨t, ht⟩ := Option.isSome_iff_exists.1 ((Graph.isSome_state? g name).2 hname)
  rw [ht] at hrel
  generalize hentry : graph.entry name = entry at hrel
  cases hrel with
  | @some entry _ hholds =>
    obtain ⟨commit, node, transitions⟩ := t
    obtain ⟨step, ids, hn, hd, -⟩ := hholds
    have hnamed : Tree.stateName? ⟨commit, node, transitions⟩ = some name := by
      simpa using List.find?_some ht
    cases hd with
    | state hi => exact ⟨entry, _, _, rfl, hn, rfl⟩
    | _ => cases hnamed

theorem stateStack_ne_nil {name : String} (hname : name ∈ g.stateNames) {limits : Limits}
    {input : String} {error : EvalError}
    (h : (Evaluator.mk graph name limits).evaluate input = some (.failed error))
    (hkind : error.kind ≠ .loopLimitExceeded) : error.stateStack ≠ [] := by
  obtain ⟨entry, node, i, hentry, hn, hstep⟩ := exists_entry hg hname
  rw [Evaluator.evaluate, Evaluator.evaluateTraced, Evaluator.attempt_eq, Evaluator.attemptWithin,
    hentry] at h
  dsimp only at h
  generalize hvisit : Attempt.visit _ _ _ _ _ = r at h
  cases hv : r.verdict with
  | failed f =>
    rw [hv] at h
    cases h
    have hstates : f.states ≠ [] := Attempt.states_of_visit hn hstep (hvisit ▸ hv) hkind
    simpa [Evaluator.report] using hstates
  | _ => rw [hv] at h; cases h

/-- An evaluation fails for want of its state, before anything has happened, exactly if the state is not
    defined. -/
theorem evaluate_unknownState (name : String) (limits : Limits) (input : String) :
    (name ∉ g.stateNames ↔ ((Evaluator.mk graph name limits).evaluate input).map (flatOutcome graph) =
        some (.unknownState name)) ∧
      (name ∉ g.stateNames ↔ ((Evaluator.mk graph name limits).evaluateTraced input).2 = []) := by
  by_cases hname : name ∈ g.stateNames
  · refine ⟨iff_of_false (not_not_intro hname) fun h => ?_, iff_of_false (not_not_intro hname) fun h => ?_⟩
    · obtain ⟨o, ho, hflat⟩ := Option.map_eq_some_iff.1 h
      cases o with
      | matched len tags => cases congrArg FlatResult.error hflat
      | noMatch => cases congrArg FlatResult.error hflat
      | failed error =>
        simp only [flatOutcome, FlatResult.unknownState, FlatResult.mk.injEq, Option.some.injEq,
          FlatError.mk.injEq] at hflat
        obtain ⟨-, -, hkind, -, -, hstack, -⟩ := hflat
        have hnot : error.kind ≠ .loopLimitExceeded := fun heq => by rw [heq] at hkind; cases hkind
        exact stateStack_ne_nil hg hname ho hnot (List.map_eq_nil_iff.1 hstack)
    · obtain ⟨entry, -, -, hentry, -, -⟩ := exists_entry hg hname
      rw [Evaluator.evaluateTraced, Evaluator.attempt, hentry] at h
      exact Attempt.log_visit_ne_nil _ _ _ _ _ h
  · have hentry : graph.entry name = none := by
      rw [← Option.not_isSome_iff_eq_none, Graph.isSome_entry hg]
      exact hname
    refine ⟨iff_of_true hname ?_, iff_of_true hname ?_⟩
    · rw [Evaluator.evaluate, Evaluator.evaluateTraced, Evaluator.attempt, hentry]
      rfl
    · rw [Evaluator.evaluateTraced, Evaluator.attempt, hentry]

end

/-! ## Numbers -/

/-- **A number that is not in use is evaluated under its digits after a number sign**, whatever has been
    requested before. The answer is a failure for want of a state, with no state evaluated, exactly if no
    state of this name is defined; and it is the answer for the number of this name if the name has one. -/
theorem evaluate_unnumbered (requests : List Request) {handle : Nat} {g : Grammar}
    (hloaded : (Session.after requests).loaded[handle]? = some g) :
    ∃ graph names, Graph.ofGrammar g = .ok graph ∧
      (Session.after requests).backend.stateNames handle = .ok names ∧
      ∀ i, (∀ name, (i, name) ∉ names) → ∀ input ticks,
        ("#" ++ toString i ∉ g.stateNames ↔
          (Session.after requests).backend.evaluate handle i input ticks =
            .ok (some (.unknownState ("#" ++ toString i)))) ∧
        ("#" ++ toString i ∉ g.stateNames ↔
          ((Evaluator.mk graph (entryName graph i) ⟨ticks, Limits.default.depth⟩).evaluateTraced
            input).2 = []) ∧
        ∀ j, (j, "#" ++ toString i) ∈ names →
          (Session.after requests).backend.evaluate handle i input ticks =
            (Session.after requests).backend.evaluate handle j input ticks := by
  obtain ⟨graph, hg, hmodel⟩ := (Session.keeps_after requests).model hloaded
  refine ⟨graph, graph.states.entries, hg, by rw [stateNames, hmodel]; rfl, fun i hi input ticks => ?_⟩
  have hentry : entryName graph i = "#" ++ toString i := by
    cases hname : graph.states.name? i with
    | some name => exact absurd (NameTable.mem_entries.2 hname) (hi name)
    | none => rw [entryName, hname, Option.getD_none]
  have hanswer : (Session.after requests).backend.evaluate handle i input ticks =
      .ok (((Evaluator.mk graph ("#" ++ toString i) ⟨ticks, Limits.default.depth⟩).evaluate input).map
        (flatOutcome graph)) := by
    rw [evaluate, hmodel, ← hentry]
    rfl
  obtain ⟨hunknown, hnothing⟩ :=
    evaluate_unknownState hg ("#" ++ toString i) ⟨ticks, Limits.default.depth⟩ input
  refine ⟨?_, hentry ▸ hnothing, fun j hj => ?_⟩
  · rw [hunknown, hanswer, Except.ok.injEq]
  · rw [hanswer, evaluate_eq hmodel (NameTable.mem_entries.1 hj)]

theorem evaluate_unnumbered_incomplete :
    (Session.after [.load Evaluator.incomplete]).loaded[0]? = some Evaluator.incomplete ∧
      (Session.after [.load Evaluator.incomplete]).backend.stateNames 0 =
        .ok [(0, "S"), (1, "T"), (2, "U")] ∧
      (Session.after [.load Evaluator.incomplete]).backend.evaluate 0 3 "ab" 1000 =
        .ok (some ⟨0, [], some ⟨.unknownNodeKind, "Tried to evaluate unknown state: #3", [], [], ""⟩⟩) := by
  have hloaded : (Session.after [.load Evaluator.incomplete]).loaded[0]? = some Evaluator.incomplete := rfl
  have hnames : (Session.after [.load Evaluator.incomplete]).backend.stateNames 0 =
      .ok [(0, "S"), (1, "T"), (2, "U")] := rfl
  obtain ⟨graph, names, -, hnames', hall⟩ := evaluate_unnumbered _ hloaded
  cases hnames.symm.trans hnames'
  exact ⟨hloaded, hnames, ((hall 3 (by simp) "ab" 1000).1).1 (by decide +kernel)⟩

def numbered : Grammar where
  root := "#1"
  states := [.plain (.state "#1") [.plain (.literal "a") []]]
  named := by simp [Tree.plain, Tree.stateName?]
  distinct := by simp [Tree.plain, Tree.stateNames, Tree.stateName?]

/-- **The number 1 is not in use, and the state is evaluated for it.** -/
theorem numbered_evaluated : ∃ b handle, Backend.empty.load numbered = .ok (b, handle) ∧
    b.stateNames handle = .ok [(0, "#1")] ∧
    b.evaluate handle 1 "a" 1000 = .ok (some ⟨1, [], none⟩) ∧
    b.evaluate handle 0 "a" 1000 = .ok (some ⟨1, [], none⟩) :=
  ⟨_, _, rfl, rfl, rfl, rfl⟩

end Backend

end GraphLexer
