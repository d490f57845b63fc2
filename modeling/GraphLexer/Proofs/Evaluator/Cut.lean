/-
Commit flags are cuts: they only turn rejections into failures.

A committed node fails where the same node without the flag would reject. The failure passes through
everything that is still open, so a flag either ends the attempt or has made no difference.
-/
import GraphLexer.Proofs.Attempt.Bounds
import GraphLexer.Proofs.Evaluator.Within
import GraphLexer.Proofs.Graph.Uncommitted

namespace GraphLexer

/-- A verdict that a commit flag has brought about, or the bound on rounds. -/
def Verdict.CutShort : Verdict → Prop
  | .failed f => f.cause.kind = .noMatch
  | .unfinished => True
  | .matched _ | .rejected => False

namespace Attempt

/-- The same attempt without commit flags. -/
def uncommitted (a : Attempt) : Attempt :=
  { a with graph := a.graph.uncommitted }

theorem stops_cutShort : Verdict.Stops Verdict.CutShort where
  matched _ h := h
  rejected h := h
  unfinished := trivial
  record step f h := by cases step <;> exact h

/-- Without its flag a node does the same, unless the flag makes it fail. -/
theorem sameNode_uncommitted (a : Attempt) (node : GraphNode) :
    SameNode Verdict.CutShort a a.uncommitted node node.uncommitted where
  step := rfl
  transitions := rfl
  giveUp pos t := by
    unfold giveUp
    by_cases h : node.commit
    · rw [if_pos h]; exact Or.inl rfl
    · rw [if_neg h]; exact .refl _

theorem refines_uncommitted (a : Attempt) : Refines Verdict.CutShort a a.uncommitted where
  toStops := stops_cutShort
  source := rfl
  patience := Nat.le_refl _
  entryOf := rfl
  states := rfl
  missing id h := by rw [uncommitted, Graph.node?_uncommitted, h]; rfl
  node id node h := ⟨node.uncommitted, by rw [uncommitted, Graph.node?_uncommitted, h]; rfl,
    sameNode_uncommitted a node⟩
  tick pos t next next' h := by
    rw [Attempt.tick, Attempt.tick, show a.uncommitted.limits = a.limits from rfl]
    split
    · exact .refl _
    · exact h _

theorem kind_of_visit_uncommitted {a : Attempt} {text : String} (hs : a.source = Source.ofText text)
    {levels id pos ticks : Nat} {f : Failure}
    (h : (a.uncommitted.visit levels id pos ticks).verdict = .failed f) : f.cause.kind ≠ .noMatch := by
  obtain ⟨origin, hr⟩ := raises_of_visit (a := a.uncommitted) hs h
  generalize f.cause = cause at hr
  cases hr with
  | noTransition hn hc =>
    rw [uncommitted, Graph.node?_uncommitted] at hn
    obtain ⟨node, _, rfl⟩ := Option.map_eq_some_iff.1 hn
    cases hc
  | _ => simp [Cause.kind]

end Attempt

namespace Evaluator

/-- Evaluation without commit flags. -/
def uncommitted (e : Evaluator) : Evaluator :=
  { e with graph := e.graph.uncommitted }

variable {e : Evaluator} {input : String} {start : Nat}

theorem noMatch_of_cutShort {g : Graph} {source : Source} {v : Verdict} {o : Outcome} (hv : v.CutShort)
    (ho : outcome g source start v = some o) : ∃ error, o = .failed error ∧ error.kind = .noMatch := by
  cases v with
  | failed f => exact ⟨_, (Option.some.inj ho).symm, hv⟩
  | unfinished => cases ho
  | matched | rejected => exact hv.elim

theorem attempt_uncommitted {source : Source} {o : Outcome} (ho : (e.attempt source start).1 = some o) :
    (∃ error, o = .failed error ∧ error.kind = .noMatch) ∨
      (e.uncommitted.attempt source start).1 = some o := by
  have hrefines : Refines Verdict.CutShort e e.uncommitted source start :=
    ⟨rfl, rfl, fun _ => rfl, fun entry =>
      (Attempt.refines_uncommitted (e.setting (patience e.limits source) source)).visit
        (Nat.le_refl _) (Or.inr ⟨rfl, rfl⟩) entry start 0⟩
  exact (hrefines.attempt ho).imp (fun ⟨_, hv, hov⟩ => noMatch_of_cutShort hv hov) id

theorem kind_of_attempt_uncommitted {error : EvalError}
    (h : (e.uncommitted.attempt (.ofText input) start).1 = some (.failed error)) :
    error.kind ≠ .noMatch := by
  rw [attempt_eq] at h
  rcases visit_of_failed h with ⟨-, rfl⟩ | ⟨entry, f, -, hv, rfl⟩
  · simp [EvalError.ofCause, Cause.kind]
  · exact Attempt.kind_of_visit_uncommitted (a := e.setting _ _) rfl hv

/-- **Commit flags are cuts.** An evaluation fails at a committed node, or its outcome is that of the
    grammar without commit flags; and without them no evaluation fails in this way. It does not matter
    what compiles the patterns. -/
theorem commits_cut {engine : Engine} {g : Grammar} {graph : Graph} (h : Graph.build engine g = .ok graph) :
    ∃ graph₀, Graph.build engine g.uncommitted = .ok graph₀ ∧ ∀ entry limits input,
      (∀ o, (Evaluator.mk graph entry limits).evaluate input = some o →
        (∃ error, o = .failed error ∧ error.kind = .noMatch) ∨
          (Evaluator.mk graph₀ entry limits).evaluate input = some o) ∧
      ∀ error, (Evaluator.mk graph₀ entry limits).evaluate input = some (.failed error) →
        error.kind ≠ .noMatch := by
  refine ⟨graph.uncommitted, by rw [Graph.build_uncommitted, h]; rfl, fun entry limits input => ?_⟩
  exact ⟨fun _ => attempt_uncommitted (e := ⟨graph, entry, limits⟩), fun _ =>
    kind_of_attempt_uncommitted (e := ⟨graph, entry, limits⟩)⟩

/-- A call with its arguments and a semicolon, or the bare name where no call was begun. -/
def calls : Grammar where
  root := "S"
  states := [
    .plain (.state "S") [
      .plain (.applyTag "call") [.committed (.literal "f")
        [.committed (.subState "Argument" (.zeroOrMore true)) [.plain (.literal ";") []]]],
      .plain (.literal "f") []],
    .plain (.state "Argument") [.plain (.applyTag "argument") [.plain (.unicode (some 97) (some 101)) []]]]
  named := by simp [Tree.plain, Tree.stateName?]
  distinct := by simp [Tree.plain, Tree.stateNames, Tree.stateName?]

theorem calls_cut : ∃ graph graph₀ tags, Graph.ofGrammar calls = .ok graph ∧
    Graph.ofGrammar calls.uncommitted = .ok graph₀ ∧
    (∃ error, (ofGraph graph).evaluate "fab" = some (.failed error) ∧ error.kind = .noMatch) ∧
    (ofGraph graph).evaluate "fab;" = some (.matched 4 tags) ∧
    (Evaluator.mk graph₀ "S" .default).evaluate "fab;" = some (.matched 4 tags) := by
  obtain ⟨graph₀, h₀, hcut⟩ := commits_cut (g := calls) (Graph.ofGrammar_of_layout rfl)
  refine ⟨_, graph₀, _, Graph.ofGrammar_of_layout rfl, h₀, ⟨_, rfl, rfl⟩, rfl,
    ((hcut "S" .default "fab;").1 _ rfl).resolve_left ?_⟩
  rintro ⟨error, he, -⟩
  cases he

end Evaluator

end GraphLexer
