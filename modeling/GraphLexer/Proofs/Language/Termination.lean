/-
Evaluation ends where the loops of a graph take something.

A loop without an upper bound over a productive target does not circle, so an evaluation of a graph
with such loops always has an outcome. The bundled grammars pass the check for it; tokenizing and
linting with them ends on every input.
-/
import GraphLexer.Proofs.Evaluator.Nesting
import GraphLexer.Proofs.Evaluator.Termination
import GraphLexer.Proofs.Graph.Consuming
import GraphLexer.Proofs.Lint

namespace GraphLexer

/-- Whether a grammar has a graph that passes the check on its loops. -/
def Grammar.loopsConsume (g : Grammar) : Bool :=
  match Graph.layout Regex.engine g with
  | .ok graph => graph.loopsConsume
  | .error _ => false

theorem Grammar.loopsProductive_of_loopsConsume {g : Grammar} (h : g.loopsConsume = true) :
    ∃ graph, Graph.ofGrammar g = .ok graph ∧ graph.LoopsProductive := by
  unfold loopsConsume at h
  split at h
  · next graph hlayout =>
    have hg := Graph.ofGrammar_of_layout hlayout
    exact ⟨graph, hg, Graph.loopsProductive_of_loopsConsume (Graph.compiledBy_build hg) h⟩
  · cases h

namespace Evaluator

variable {e : Evaluator} (h : e.graph.LoopsProductive)
include h

theorem not_spins {input : String} {start : Nat} (hle : start ≤ (Source.ofText input).length) :
    ¬ e.Spins (.ofText input) start := by
  rintro ⟨n, entry, _, hs⟩
  exact Attempt.not_spins (a := e.setting n (.ofText input)) rfl h (Nat.le_refl _) hle hs

theorem evaluate_isSome (input : String) : (e.evaluate input).isSome :=
  attempt_isSome.2 (not_spins h (Nat.zero_le _))

theorem evaluateAll_isSome_of_loopsProductive (input : String) : (e.evaluateAll input).isSome :=
  evaluateAll_isSome.2 fun _ _ _ hlt => not_spins h (Nat.le_of_lt hlt)

end Evaluator

namespace Language

theorem loopsConsume_of_mem : ∀ l ∈ all, l.grammar.loopsConsume = true := by decide +kernel

/-- The graph of a grammar that passes the check is the one it lowers to, with productive loops. -/
theorem graph_of_loopsConsume {l : Language} (h : l.grammar.loopsConsume = true) :
    Graph.ofGrammar l.grammar = .ok l.graph ∧ l.graph.LoopsProductive := by
  obtain ⟨graph, hg, hloops⟩ := Grammar.loopsProductive_of_loopsConsume h
  have : l.graph = graph := by simp only [Language.graph, hg]
  exact this ▸ ⟨hg, hloops⟩

theorem graph_of_mem {l : Language} (h : l ∈ all) :
    Graph.ofGrammar l.grammar = .ok l.graph ∧ l.graph.LoopsProductive :=
  graph_of_loopsConsume (loopsConsume_of_mem l h)

section
variable {l : Language} (hl : l ∈ all)
include hl

theorem tokenize_isSome (input : String) : ∃ t, l.tokenize input = some t :=
  Option.isSome_iff_exists.1
    (Evaluator.evaluateAll_isSome_of_loopsProductive (e := l.evaluator) (graph_of_mem hl).2 input)

theorem check_isSome (input : String) : ∃ issues, Lint.check l input = some issues :=
  Option.isSome_iff_exists.1 (Lint.issuesFrom_isSome
    (fun input => Option.isSome_iff_exists.2 (tokenize_isSome hl input)) _ _ _)

end

/-- **Evaluation ends where the loops of a graph are productive**, from every state, under all limits
    and on every input. The loops of the bundled grammars are, so tokenizing and linting with them
    ends; the bound on the steps of the linter plays no part. -/
theorem terminates_of_loopsProductive :
    (∀ e : Evaluator, e.graph.LoopsProductive → ∀ input,
      (e.evaluate input).isSome ∧ (e.evaluateAll input).isSome) ∧
    ∀ l ∈ all, Graph.ofGrammar l.grammar = .ok l.graph ∧ l.graph.LoopsProductive ∧ ∀ input,
      (l.tokenize input).isSome ∧ (Lint.check l input).isSome ∧
        ∀ fuel, input.toList.length ≤ fuel →
          Lint.issuesFrom l.evaluator fuel 0 input.toList = Lint.check l input := by
  have hend : ∀ e : Evaluator, e.graph.LoopsProductive → ∀ input,
      (e.evaluate input).isSome ∧ (e.evaluateAll input).isSome := fun e h input =>
    ⟨Evaluator.evaluate_isSome h input, Evaluator.evaluateAll_isSome_of_loopsProductive h input⟩
  refine ⟨hend, fun l hl => ?_⟩
  obtain ⟨hg, hloops⟩ := graph_of_mem hl
  have hall : ∀ input, (l.evaluator.evaluateAll input).isSome := fun input => (hend _ hloops input).2
  exact ⟨hg, hloops, fun input => ⟨hall input, Lint.issuesFrom_isSome hall _ _ _, fun fuel hle =>
    Lint.issuesFrom_fuel 0 hle (Nat.le_refl _)⟩⟩

/-- The loop over letters in brackets is productive, and so are those of patterns, also where a class
    is not closed. -/
theorem brackets_terminates : ∃ graph, Graph.ofGrammar Evaluator.brackets = .ok graph ∧
    graph.LoopsProductive ∧ ((Evaluator.mk graph "S" ⟨3, 2⟩).evaluate "(ab").isSome ∧
    ((Evaluator.mk graph "Letter" .default).evaluateAll "ab)").isSome ∧
    (regex.tokenize "a[b").isSome ∧ (Lint.check regex "a[b").isSome ∧
    Lint.issuesFrom regex.evaluator 4 0 "a[b".toList = Lint.check regex "a[b" := by
  obtain ⟨graph, hg, hloops⟩ := Grammar.loopsProductive_of_loopsConsume (g := Evaluator.brackets) rfl
  obtain ⟨-, -, hregex⟩ := terminates_of_loopsProductive.2 regex (by simp [all])
  exact ⟨graph, hg, hloops, (terminates_of_loopsProductive.1 ⟨graph, "S", ⟨3, 2⟩⟩ hloops "(ab").1,
    (terminates_of_loopsProductive.1 ⟨graph, "Letter", .default⟩ hloops "ab)").2,
    (hregex "a[b").1, (hregex "a[b").2.1, (hregex "a[b").2.2 4 (by decide)⟩

end Language

end GraphLexer
