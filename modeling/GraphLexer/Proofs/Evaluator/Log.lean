/-
What a tracer is told of an evaluation, and the stacks of its failure.

The events are brackets (`events_bracketed`), and when the evaluation fails, those at the end close the
visits that were open where the failure was raised. The stacks of the failure have the names of exactly
these visits, outermost first (`stacks_of_failed`).
-/
import GraphLexer.Graph.Lower
import GraphLexer.Proofs.Attempt.Log
import GraphLexer.Proofs.Evaluator.Within

namespace GraphLexer

/-- The events of an evaluation that begins with the visit `v`, up to its outcome. An evaluation without an
    outcome goes on forever. -/
inductive Graph.Traced (g : Graph) (v : Visit) : Option Outcome → List Event → Prop
  | matched {rounds consumed len : Nat} {tags : List (Tag String)} {inner : List Event} :
      g.Inside v.node rounds consumed inner →
      Traced g v (some (.matched len tags)) (v.enter :: inner ++ [.matched v.node v.pos len])
  | noMatch {rounds consumed : Nat} {inner : List Event} : g.Inside v.node rounds consumed inner →
      Traced g v (some .noMatch) (v.enter :: inner ++ [.rejected v.node v.pos])
  /-- a failure closes the visits that are open, the innermost one first -/
  | failed {above : List Visit} {last : Visit} {inside opened : List Event} {error : EvalError} :
      g.Opened v above last inside opened → Traced g v (some (.failed error))
        (v.enter :: opened ++ Visit.closings error.kind (above ++ [last]))
  | unfinished {above : List Visit} {last : Visit} {inside opened : List Event} :
      g.Opened v above last inside opened → Traced g v none (v.enter :: opened)

namespace Evaluator

variable {e : Evaluator} {input : String} {entry : Nat}

theorem evaluateTraced_eq (input : String) (hentry : e.graph.entry e.entry = some entry) : ∃ r : Result,
    e.graph.Visited ⟨entry, 0⟩ (told r.log) r.verdict ∧
      e.evaluateTraced input = (outcome e.graph (Source.ofText input) 0 r.verdict, r.log) := by
  have hvisit := Attempt.visited_visit (a := e.setting (patience e.limits (Source.ofText input))
    (Source.ofText input)) e.limits.depth.toNat entry 0 0
  refine ⟨_, hvisit, ?_⟩
  rw [evaluateTraced, attempt, hentry]
  rfl

theorem closings_of_opened {g : Graph} {v last : Visit} {above : List Visit} {inside opened : List Event}
    (h : g.Opened v above last inside opened) (kind : FailureKind) :
    Visit.closings kind (above ++ [last]).tail ++ [v.failed kind] =
      Visit.closings kind (above ++ [last]) := by
  cases h with
  | here => rfl
  | within => simp [Visit.closings]

theorem traced_of_visited {g : Graph} {source : Source} {v : Visit} {log : List Event} {verdict : Verdict}
    (h : g.Visited v log verdict) : g.Traced v (outcome g source 0 verdict) log := by
  obtain ⟨inner, ⟨_, _, hinner⟩, rfl⟩ := h
  cases verdict with
  | matched p => exact .matched hinner
  | rejected => exact .noMatch hinner
  | unfinished =>
    obtain ⟨above, last, inside, hopened⟩ := hinner
    rw [Result.closing, List.append_nil]
    exact .unfinished hopened
  | failed f =>
    obtain ⟨above, last, inside, opened, hopened, rfl, -⟩ := hinner
    rw [← List.cons_append, List.append_assoc]
    exact closings_of_opened hopened f.cause.kind ▸ .failed hopened

/-- **The events of an evaluation are brackets.** Every visit within them is closed once, by an event of
    its own, and inner visits before outer ones. Rounds are counted directly inside the invocation that
    makes them. After a failure there are only the events that close the open visits. An undefined state
    has no events. -/
theorem events_bracketed (e : Evaluator) (input : String) :
    match e.graph.entry e.entry with
    | none => (e.evaluateTraced input).2 = []
    | some entry =>
      e.graph.Traced ⟨entry, 0⟩ (e.evaluateTraced input).1 (told (e.evaluateTraced input).2) := by
  split
  · next hentry =>
    rw [evaluateTraced, attempt, hentry]
  · next entry hentry =>
    obtain ⟨r, hvisit, htraced⟩ := evaluateTraced_eq input hentry
    rw [htraced]
    exact traced_of_visited hvisit

/-- **The stacks of a failure are the open visits.** The failure is raised at the visit `last`, below the
    visits `above`. Its stacks have the names of the visits above, outermost first, and then the tag of
    the last one if this is committed and all its transitions have rejected. -/
theorem stacks_of_failed {error : EvalError} (hentry : e.graph.entry e.entry = some entry)
    (h : e.evaluate input = some (.failed error)) : ∃ above last inside opened own,
      e.graph.Opened ⟨entry, 0⟩ above last inside opened ∧
      told (e.evaluateTraced input).2 =
        .enter entry 0 :: opened ++ Visit.closings error.kind (above ++ [last]) ∧
      e.graph.OwnTags last inside own ∧
      error.stateStack = (above.filterMap e.graph.stateOf).map e.graph.states.name ∧
      error.tagStack = (above.filterMap e.graph.tagOf ++ own).map e.graph.tags.name := by
  obtain ⟨r, ⟨inner, ⟨_, _, hinner⟩, hlog⟩, htraced⟩ := evaluateTraced_eq input hentry
  rw [evaluate, htraced] at h
  cases hv : r.verdict with
  | failed f =>
    rw [hv] at h hinner hlog
    cases h
    obtain ⟨above, last, inside, opened, hopened, rfl, hstates, own, hown, htags⟩ := hinner
    refine ⟨above, last, inside, opened, own, hopened, ?_, hown, ?_, ?_⟩
    · rw [htraced, hlog, ← List.cons_append, List.append_assoc]
      exact congrArg _ (closings_of_opened hopened f.cause.kind)
    · show (f.states.map _).reverse = _
      rw [← List.map_reverse]
      exact congrArg _ hstates
    · show (f.tags.map _).reverse = _
      rw [← List.map_reverse]
      exact congrArg _ htags
  | _ => rw [hv] at h; cases h

/-- A list in brackets. What follows a dash has to be a letter or a digit. -/
def lists : Grammar where
  root := "List"
  states := [
    .plain (.state "List") [.plain (.applyTag "list") [.plain (.literal "[")
      [.plain (.subState "Item" (.zeroOrMore true)) [.plain (.literal "]") []]]]],
    .plain (.state "Item") [.plain (.literal "-") [.committed (.applyTag "item") [
      .plain (.unicode (some 97) (some 122)) [],
      .plain (.unicode (some 48) (some 57)) []]]]]
  named := by simp [Tree.plain, Tree.stateName?]
  distinct := by simp [Tree.plain, Tree.stateNames, Tree.stateName?]

/-- After two finished items, the third one fails at its own tag. -/
theorem lists_stacks : ∃ graph error above last inside opened own, Graph.ofGrammar lists = .ok graph ∧
    graph.entry "List" = some 0 ∧ (ofGraph graph).evaluate "[-a-1-*]" = some (.failed error) ∧
    graph.Opened ⟨0, 0⟩ above last inside opened ∧ graph.OwnTags last inside own ∧
    (above.filterMap graph.stateOf).map graph.states.name = ["List", "Item"] ∧
    (above.filterMap graph.tagOf ++ own).map graph.tags.name = ["list", "item"] := by
  have hfailed : ∃ graph, Graph.ofGrammar lists = .ok graph ∧ graph.entry "List" = some 0 ∧
      ∃ error, (ofGraph graph).evaluate "[-a-1-*]" = some (.failed error) ∧
        error.stateStack = ["List", "Item"] ∧ error.tagStack = ["list", "item"] :=
    ⟨_, rfl, rfl, _, rfl, rfl, rfl⟩
  obtain ⟨graph, hg, hentry, error, h, hstates, htags⟩ := hfailed
  have hroot : (ofGraph graph).graph.entry (ofGraph graph).entry = some 0 := by
    cases hg
    rfl
  obtain ⟨above, last, inside, opened, own, hopened, -, hown, hstates', htags'⟩ :=
    stacks_of_failed hroot h
  exact ⟨graph, error, above, last, inside, opened, own, hg, hentry, h, hopened, hown,
    hstates'.symm.trans hstates, htags'.symm.trans htags⟩

end Evaluator

end GraphLexer
