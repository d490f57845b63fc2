/-
An attempt with a given number of rounds for its unbounded loops, and what its outcome says about the
visit of the entry node. Two evaluators whose visits go the same way have the same outcomes
(`Refines.attempt`).
-/
import GraphLexer.Evaluator
import GraphLexer.Proofs.Attempt.Refinement

namespace GraphLexer.Evaluator

/-- The setting of attempts in which unbounded loops are given `n` rounds beyond their lower bound. -/
def setting (e : Evaluator) (n : Nat) (source : Source) : Attempt :=
  ⟨e.graph, source, e.limits, n⟩

/-- An attempt in which unbounded loops are given `n` rounds beyond their lower bound. -/
def attemptWithin (e : Evaluator) (n : Nat) (source : Source) (start : Nat) : Option Outcome :=
  match e.graph.entry e.entry with
  | none => some (.failed (.ofCause (.unknownState e.entry)))
  | some entry =>
    outcome e.graph source start ((e.setting n source).visit e.limits.depth.toNat entry start 0).verdict

theorem attempt_eq (e : Evaluator) (source : Source) (start : Nat) :
    (e.attempt source start).1 = e.attemptWithin (patience e.limits source) source start := by
  unfold attempt attemptWithin
  cases e.graph.entry e.entry <;> rfl

variable {e : Evaluator} {n : Nat} {source : Source} {start : Nat}

theorem attemptWithin_eq_none : e.attemptWithin n source start = none ↔
    ∃ entry, e.graph.entry e.entry = some entry ∧
      ((e.setting n source).visit e.limits.depth.toNat entry start 0).verdict = .unfinished := by
  unfold attemptWithin
  cases e.graph.entry e.entry with
  | none => simp
  | some entry =>
    simp only [Option.some.injEq, exists_eq_left']
    cases ((e.setting n source).visit e.limits.depth.toNat entry start 0).verdict <;> simp [outcome]

theorem visit_of_matched {len : Nat} {tags : List (Tag String)}
    (h : e.attemptWithin n source start = some (.matched len tags)) : ∃ entry p,
      ((e.setting n source).visit e.limits.depth.toNat entry start 0).verdict = .matched p ∧
      len = p.len ∧ tags = Tag.maps e.graph.tags.name (· - start) p.tags := by
  unfold attemptWithin at h
  split at h
  · cases h
  · next entry _ =>
    cases hv : ((e.setting n source).visit e.limits.depth.toNat entry start 0).verdict with
    | matched p => rw [hv] at h; cases h; exact ⟨entry, p, hv, rfl, rfl⟩
    | _ => rw [hv] at h; cases h

theorem visit_of_failed {error : EvalError}
    (h : e.attemptWithin n source start = some (.failed error)) :
    (e.graph.entry e.entry = none ∧ error = .ofCause (.unknownState e.entry)) ∨ ∃ entry f,
      e.graph.entry e.entry = some entry ∧
      ((e.setting n source).visit e.limits.depth.toNat entry start 0).verdict = .failed f ∧
      error = report e.graph source start f := by
  unfold attemptWithin at h
  split at h
  · next he => cases h; exact Or.inl ⟨he, rfl⟩
  · next entry hentry =>
    cases hv : ((e.setting n source).visit e.limits.depth.toNat entry start 0).verdict with
    | failed f => rw [hv] at h; cases h; exact Or.inr ⟨entry, f, hentry, hv, rfl⟩
    | _ => rw [hv] at h; cases h

/-! ## Two evaluators -/

/-- Evaluators with the same entry node and the same names, whose visits of it come to the same up to
    `out`. -/
structure Refines (out : Verdict → Prop) (e e' : Evaluator) (source : Source) (start : Nat) : Prop where
  entry : e'.entry = e.entry
  lookup : e'.graph.entry e.entry = e.graph.entry e.entry
  outcome : ∀ v, outcome e'.graph source start v = outcome e.graph source start v
  visit : ∀ entry, Result.Upto out
    ((e.setting (patience e.limits source) source).visit e.limits.depth.toNat entry start 0)
    ((e'.setting (patience e'.limits source) source).visit e'.limits.depth.toNat entry start 0)

variable {out : Verdict → Prop} {e e' : Evaluator} {source : Source} {start : Nat} {o : Outcome}

/-- An outcome is that of a verdict which is let go, or the outcome of the second evaluator. -/
theorem Refines.attempt (H : Refines out e e' source start) (ho : (e.attempt source start).1 = some o) :
    (∃ v, out v ∧ Evaluator.outcome e.graph source start v = some o) ∨
      (e'.attempt source start).1 = some o := by
  rw [attempt_eq] at ho ⊢
  unfold attemptWithin at ho ⊢
  rw [H.entry, H.lookup]
  cases he : e.graph.entry e.entry with
  | none => rw [he] at ho; exact Or.inr ho
  | some entry =>
    simp only [he] at ho
    rcases H.visit entry with hout | ⟨hv, _⟩
    · exact Or.inl ⟨_, hout, ho⟩
    · exact Or.inr (by simp only [← hv, H.outcome, ho])

end GraphLexer.Evaluator
