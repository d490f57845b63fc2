/-
A grammar in which nothing is missing is evaluated without missing states.

A failure for want of a state is raised at an invocation (`raises_of_visit`), and the walks that look for
missing states come to every invocation of the graph (`exists_entryOf`). So where they find none, no
evaluation from a defined state fails in this way, however long it goes on.
-/
import GraphLexer.Finding
import GraphLexer.Proofs.Attempt.Bounds
import GraphLexer.Proofs.Evaluator.Attempts
import GraphLexer.Proofs.Evaluator.Within
import GraphLexer.Proofs.Graph.Dangling

namespace GraphLexer

/-- No evaluation from a state fails for want of a state. -/
structure Graph.FindsStates (g : Graph) (entry : String) (limits : Limits) (input : String) : Prop where
  evaluate : ∀ error, (Evaluator.mk g entry limits).evaluate input = some (.failed error) →
    error.kind ≠ .unknownNodeKind
  evaluateAll : ∀ t error, (Evaluator.mk g entry limits).evaluateAll input = some t →
    t.lastError = some error → error.kind ≠ .unknownNodeKind

namespace Evaluator

variable {g : Grammar} {graph : Graph} (h : Graph.ofGrammar g = .ok graph) (hd : graph.dangling = [])
include h hd

theorem kind_of_visit {a : Attempt} {text : String} (ha : a.graph = graph)
    (hs : a.source = Source.ofText text) {levels id pos ticks : Nat} {f : Failure}
    (hv : (a.visit levels id pos ticks).verdict = .failed f) : f.cause.kind ≠ .unknownNodeKind := by
  obtain ⟨origin, hr⟩ := Attempt.raises_of_visit hs hv
  generalize f.cause = cause at hr
  cases hr with
  | unknownState hn hstep he =>
    rw [ha] at hn he
    obtain ⟨entry, he'⟩ := Graph.exists_entryOf h hd hn hstep
    rw [he] at he'
    cases he'
  | ticks | depth | noTransition => simp [Cause.kind]

theorem kind_of_attempt {entry : String} (hentry : entry ∈ g.stateNames) {limits : Limits}
    {input : String} {start : Nat} {error : EvalError}
    (ha : ((Evaluator.mk graph entry limits).attempt (.ofText input) start).1 = some (.failed error)) :
    error.kind ≠ .unknownNodeKind := by
  rw [attempt_eq] at ha
  rcases visit_of_failed ha with ⟨hnone, -⟩ | ⟨id, f, -, hv, rfl⟩
  · have hsome := (Graph.isSome_entry h entry).2 hentry
    rw [hnone] at hsome
    cases hsome
  · exact kind_of_visit h hd (a := setting ⟨graph, entry, limits⟩ _ _) rfl rfl hv

theorem findsStates {entry : String} (hentry : entry ∈ g.stateNames) (limits : Limits)
    (input : String) : graph.FindsStates entry limits input where
  evaluate _ ha := kind_of_attempt h hd hentry ha
  evaluateAll t error ht herror := by
    obtain ⟨offset, tags, -, hends⟩ := ends_of_evaluateAll ht
    cases hends with
    | failed _ ha =>
      cases herror
      exact kind_of_attempt h hd hentry ha
    | complete | noMatch | empty => cases herror

omit h hd

/-- A grammar without findings has a graph, and the graph refers to no missing states. -/
theorem dangling_of_findings (hf : g.findings = some []) :
    ∃ graph, Graph.ofGrammar g = .ok graph ∧ graph.dangling = [] := by
  rw [Grammar.findings, Option.bind_eq_bind, Option.bind_eq_some_iff] at hf
  obtain ⟨found, -, hf⟩ := hf
  have hreferences : g.referenceFindings = [] := (List.append_eq_nil_iff.1 (Option.some.inj hf)).1
  rw [Grammar.referenceFindings] at hreferences
  cases hg : Graph.ofGrammar g with
  | error e => rw [hg] at hreferences; cases hreferences
  | ok graph =>
    rw [hg] at hreferences
    exact ⟨graph, rfl, List.map_eq_nil_iff.1 hreferences⟩

/-- **Nothing is missing where nothing is found.** A grammar without findings has a graph and a root
    state, and no evaluation from any of its states fails for want of a state. Of the findings, those
    about references are enough. -/
theorem findsStates_of_findings (g : Grammar) :
    (g.findings = some [] → ∃ graph, Graph.ofGrammar g = .ok graph ∧ g.root ∈ g.stateNames ∧
      ∀ entry ∈ g.stateNames, ∀ limits input, graph.FindsStates entry limits input) ∧
    ∀ graph, Graph.ofGrammar g = .ok graph → graph.dangling = [] → g.root ∈ g.stateNames ∧
      ∀ entry ∈ g.stateNames, ∀ limits input, graph.FindsStates entry limits input := by
  have hall : ∀ graph, Graph.ofGrammar g = .ok graph → graph.dangling = [] → g.root ∈ g.stateNames ∧
      ∀ entry ∈ g.stateNames, ∀ limits input, graph.FindsStates entry limits input :=
    fun graph hg hd => ⟨Graph.root_mem_stateNames hg hd, fun _ => findsStates hg hd⟩
  refine ⟨fun hf => ?_, hall⟩
  obtain ⟨graph, hg, hd⟩ := dangling_of_findings hf
  exact ⟨graph, hg, hall graph hg hd⟩

/-- Two states that invoke each other, one of them within a nested state and an alternative. -/
def alternating : Grammar where
  root := "S"
  states := [
    .plain (.state "S") [
      .plain (.state "Inner") [.plain (.literal "a") [.plain (.subState "T" .once) []]],
      .plain (.literal "b") []],
    .plain (.state "T") [.committed (.applyTag "tag") [.plain (.subState "S" (.zeroOrMore true)) []]]]
  named := by simp [Tree.plain, Tree.stateName?]
  distinct := by simp [Tree.plain, Tree.stateNames, Tree.stateName?]

theorem findsStates_alternating : alternating.findings = some [] ∧
    ∃ graph, Graph.ofGrammar alternating = .ok graph ∧ graph.dangling = [] ∧
      graph.FindsStates "S" .default "aabab" ∧ graph.FindsStates "T" .default "ab" := by
  have hf : alternating.findings = some [] := by decide +kernel
  obtain ⟨graph, hg, -, hall⟩ := (findsStates_of_findings alternating).1 hf
  obtain ⟨graph', hg', hd⟩ := dangling_of_findings hf
  cases hg.symm.trans hg'
  have hall' := ((findsStates_of_findings alternating).2 graph hg hd).2
  exact ⟨hf, graph, hg, hd, hall "S" (by decide +kernel) _ _, hall' "T" (by decide +kernel) _ _⟩

end Evaluator

end GraphLexer
