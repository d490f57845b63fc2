/-
When attempts end.

The number of ticks bounds what an attempt does between two moments of progress, but progress within an
alternative that is given up later counts as well. An attempt ends exactly if it does not come to a
loop that circles (`ends_iff_not_spins`). The loops of `discarding` make progress in each round and give
it up; they never run out of ticks.
-/
import GraphLexer.Proofs.Attempt.Spin
import GraphLexer.Proofs.Evaluator.Attempts
import GraphLexer.Proofs.Evaluator.Within
import GraphLexer.Proofs.Graph.Builder

namespace GraphLexer.Evaluator

/-- An attempt comes to a loop that circles, given enough rounds. -/
def Spins (e : Evaluator) (source : Source) (start : Nat) : Prop :=
  ∃ n entry, e.graph.entry e.entry = some entry ∧
    (e.setting n source).Spins e.limits.depth.toNat entry start 0

/-- The setting of the attempts that are made. -/
def patient (e : Evaluator) (input : String) : Attempt :=
  e.setting (patience e.limits (Source.ofText input)) (Source.ofText input)

variable {e : Evaluator} {input : String} {start : Nat}

theorem patient_le : ((e.patient input).source.length + 1) * ((e.patient input).limits.ticks.toNat + 1) ≤
    (e.patient input).patience :=
  Nat.mul_le_mul_left _ (by simp [patient, setting])

theorem attemptWithin_of_le {source : Source} {n m : Nat} (hle : n ≤ m) {o : Outcome}
    (h : e.attemptWithin n source start = some o) : e.attemptWithin m source start = some o := by
  unfold attemptWithin at h ⊢
  cases he : e.graph.entry e.entry with
  | none => rwa [he] at h
  | some entry =>
    simp only [he] at h
    rcases Attempt.visit_of_patience_le (a := e.setting n source) hle e.limits.depth.toNat entry start 0
      with hu | ⟨hv, _⟩
    · rw [hu] at h; cases h
    · rw [hv] at h; exact h

theorem Spins.no_outcome (h : e.Spins (Source.ofText input) start) (n : Nat) :
    e.attemptWithin n (Source.ofText input) start = none := by
  obtain ⟨m, entry, he, h⟩ := h
  have hmore : e.attemptWithin (max n m) (Source.ofText input) start = none :=
    attemptWithin_eq_none.2 ⟨entry, he, (h.mono (Nat.le_max_right n m)).unfinished⟩
  cases hn : e.attemptWithin n (Source.ofText input) start with
  | none => rfl
  | some o => rw [attemptWithin_of_le (Nat.le_max_left n m) hn] at hmore; cases hmore

theorem attempt_eq_none :
    (e.attempt (Source.ofText input) start).1 = none ↔ e.Spins (Source.ofText input) start := by
  rw [attempt_eq]
  refine ⟨fun h => ?_, fun h => h.no_outcome _⟩
  obtain ⟨entry, he, h⟩ := attemptWithin_eq_none.1 h
  exact ⟨_, entry, he, (Attempt.unfinished_iff_spins (a := e.patient input) rfl patient_le).1 h⟩

theorem attempt_isSome :
    (e.attempt (Source.ofText input) start).1.isSome ↔ ¬ e.Spins (Source.ofText input) start := by
  rw [Option.isSome_iff_ne_none, ne_eq, attempt_eq_none]

theorem attemptWithin_isSome : (∃ n, (e.attemptWithin n (Source.ofText input) start).isSome) ↔
    ¬ e.Spins (Source.ofText input) start := by
  constructor
  · rintro ⟨n, hn⟩ h
    rw [h.no_outcome n] at hn
    cases hn
  · intro h
    exact ⟨_, attempt_eq e (Source.ofText input) start ▸ attempt_isSome.2 h⟩

/-- The rounds that are given are enough for whatever outcome there is. -/
theorem attempt_eq_some {o : Outcome} : (e.attempt (Source.ofText input) start).1 = some o ↔
    ∃ n, e.attemptWithin n (Source.ofText input) start = some o := by
  refine ⟨fun h => ⟨_, attempt_eq e (Source.ofText input) start ▸ h⟩, fun ⟨n, hn⟩ => ?_⟩
  obtain ⟨o', ho⟩ := Option.isSome_iff_exists.1
    (attempt_isSome.2 (attemptWithin_isSome.1 ⟨n, by rw [hn]; rfl⟩))
  rw [attempt_eq] at ho ⊢
  rw [ho, ← attemptWithin_of_le (Nat.le_max_right _ _) ho, attemptWithin_of_le (Nat.le_max_left n _) hn]

theorem evaluateAll_isSome : (e.evaluateAll input).isSome ↔ ∀ offset tags,
    e.Reaches (Source.ofText input) offset tags → offset < (Source.ofText input).length →
      ¬ e.Spins (Source.ofText input) offset := by
  rw [Option.isSome_iff_ne_none, ne_eq, evaluateAll_eq_none]
  simp only [attempt_eq_none, not_exists, not_and]

theorem exhausted_iff {levels id pos target entry : Nat} {node : GraphNode} {r : Repetition}
    (h : (e.patient input).IdleLoop levels id pos node target entry r) (ticks : Nat) :
    (e.patient input).Exhausted ((e.patient input).visit (levels + 1) id pos ticks).verdict ↔
      ¬ (e.patient input).Spins (levels + 1) id pos ticks := by
  rw [← Attempt.unfinished_iff_spins (a := e.patient input) rfl patient_le]
  constructor
  · rintro ⟨f, hf, _⟩ hu
    rw [hu] at hf
    cases hf
  · exact (h.exhausted ticks).resolve_right

/-- **Attempts end exactly if they do not come to a loop that circles**, and otherwise no number of
    rounds is enough. A loop that takes nothing then runs out of ticks. -/
theorem ends_iff_not_spins (e : Evaluator) (input : String) :
    (∀ start, ((∃ n, (e.attemptWithin n (Source.ofText input) start).isSome) ↔
          ¬ e.Spins (Source.ofText input) start) ∧
        ((e.attempt (Source.ofText input) start).1.isSome ↔ ¬ e.Spins (Source.ofText input) start)) ∧
      ((e.evaluate input).isSome ↔ ¬ e.Spins (Source.ofText input) 0) ∧
      ((e.evaluateAll input).isSome ↔ ∀ offset tags, e.Reaches (Source.ofText input) offset tags →
          offset < (Source.ofText input).length → ¬ e.Spins (Source.ofText input) offset) ∧
      ∀ levels id pos node target entry r,
        (e.patient input).IdleLoop levels id pos node target entry r → ∀ ticks,
          ((e.patient input).Exhausted ((e.patient input).visit (levels + 1) id pos ticks).verdict ↔
            ¬ (e.patient input).Spins (levels + 1) id pos ticks) :=
  ⟨fun _ => ⟨attemptWithin_isSome, attempt_isSome⟩, attempt_isSome, evaluateAll_isSome,
    fun _ _ _ _ _ _ _ => exhausted_iff⟩

/-! ## Progress that is given up -/

/-- A loop over a state that tries "ab" and otherwise matches nothing. On "a" each round takes a unit by
    another state, and gives it up. -/
def discarding (r : Repetition) : Grammar where
  root := "S"
  states := [
    .plain (.state "S") [.plain (.subState "T" r) []],
    .plain (.state "T")
      [.plain (.subState "A" .once) [.plain (.literal "b") []], .plain (.literal "") []],
    .plain (.state "A") [.plain (.literal "a") []]]
  named := by simp [Tree.plain, Tree.stateName?]
  distinct := by simp [Tree.plain, Tree.stateNames, Tree.stateName?]

/-- Where nothing is given up, the loop runs out of ticks. -/
theorem exhausted_discarding : ∃ graph, Graph.ofGrammar (discarding (.zeroOrMore true)) = .ok graph ∧
    ∀ ticks, ((Evaluator.mk graph "S" ⟨6, 256⟩).patient "c").Exhausted
        (((Evaluator.mk graph "S" ⟨6, 256⟩).patient "c").visit 256 1 0 ticks).verdict ↔
      ¬ ((Evaluator.mk graph "S" ⟨6, 256⟩).patient "c").Spins 256 1 0 ticks := by
  refine ⟨_, Graph.ofGrammar_of_layout rfl, (ends_iff_not_spins _ "c").2.2.2 255 1 0 _ 1 2 (.zeroOrMore true)
    ⟨rfl, rfl, rfl, rfl, fun t => ?_, fun h => absurd rfl h⟩⟩
  rcases Nat.lt_or_ge t 6 with h | h
  · match t with
    | 0 | 1 => exact Or.inl ⟨_, rfl, rfl⟩
    | 2 | 3 | 4 | 5 => exact Or.inr ⟨_, rfl, rfl⟩
  · right
    rw [Attempt.visit, Result.verdict_visited, Attempt.tick, if_pos ⟨by decide, Nat.lt_succ_of_le h⟩]
    exact ⟨_, rfl, rfl⟩

/-- **Progress that is given up sets the ticks back.** A loop whose target takes nothing then has no end,
    or makes more rounds than there are ticks and matches. -/
theorem discarded_progress : ∃ graph graph',
    Graph.ofGrammar (discarding (.zeroOrMore true)) = .ok graph ∧
      (∀ n, (Evaluator.mk graph "S" ⟨10, 256⟩).attemptWithin n (Source.ofText "a") 0 = none) ∧
    Graph.ofGrammar (discarding ⟨false, 20, none⟩) = .ok graph' ∧
      (Evaluator.mk graph' "S" ⟨10, 256⟩).evaluate "a" = some (.matched 0 []) := by
  refine ⟨_, _, Graph.ofGrammar_of_layout rfl, Spins.no_outcome ⟨0, 0, rfl, by decide, _, rfl, 0, rfl,
    Or.inl ⟨by decide, _, rfl, 2, rfl, 1, (0, 3), ?_, Or.inr ⟨rfl, by decide, 2, by decide, ?_⟩⟩⟩,
    Graph.ofGrammar_of_layout rfl, rfl⟩
  · exact .head ⟨rfl, by decide, _, rfl, Or.inr ⟨rfl, by decide, rfl⟩⟩ (.refl _ _)
  · exact .head ⟨rfl, by decide, _, rfl, Or.inr ⟨rfl, by decide, rfl⟩⟩ (.refl _ _)

end GraphLexer.Evaluator
