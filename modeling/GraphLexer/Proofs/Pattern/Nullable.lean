/-
Expressions that take a character in every match.

`isNullable` goes by the form of an expression. A walk through an expression that is not nullable is
not done before it has taken a character (`walk_ends`), so no match of it is empty
(`matchLength_pos`).
-/
import GraphLexer.Pattern.Regex

namespace GraphLexer

/-- A walk may come to its end without taking a character. -/
def Walk.Ends (w : Walk) : Prop :=
  ∃ met, Head.done ∈ (w met).1

namespace Walk

variable {first second again leave w : Walk} {point : Regex} {greedy : Bool}

theorem not_ends_stuck : ¬ stuck.Ends := by
  rintro ⟨met, h⟩
  cases h

theorem Ends.orElse : (first.orElse second).Ends → first.Ends ∨ second.Ends := by
  rintro ⟨met, h⟩
  exact (List.mem_append.1 h).imp (fun h => ⟨met, h⟩) fun h => ⟨_, h⟩

theorem Ends.choice : (w.choice point).Ends → w.Ends := by
  rintro ⟨met, h⟩
  unfold Walk.choice at h
  split at h
  · cases h
  · exact ⟨_, h⟩

theorem Ends.round : (round greedy again leave).Ends → again.Ends ∨ leave.Ends := by
  unfold Walk.round
  split
  · exact Ends.orElse
  · exact fun h => h.orElse.symm

end Walk

namespace Regex

section
variable {a next : Regex} {leave : Walk} {body : Regex → Walk → Walk} {greedy : Bool}
  (hbody : ∀ {next leave}, (body next leave).Ends → a.isNullable = true ∧ leave.Ends)
include hbody

theorem anyRounds_ends (h : (anyRounds greedy a next leave body).Ends) : leave.Ends :=
  h.choice.round.resolve_left fun h => Walk.not_ends_stuck (hbody h).2

theorem upTo_ends : ∀ {max : Nat}, (upTo greedy a next leave body max).Ends → leave.Ends
  | 0, h => h
  | _ + 1, h => h.choice.round.elim (fun h => upTo_ends (hbody h).2) id

theorem atLeast_ends : ∀ {min : Nat}, (atLeast greedy a next leave body min).Ends →
    (min = 0 ∨ a.isNullable = true) ∧ leave.Ends
  | 0, h => by
    refine ⟨Or.inl rfl, ?_⟩
    rw [atLeast] at h
    split at h
    · exact h.choice.round.elim (fun h => (hbody h).2.choice) id
    · exact anyRounds_ends hbody h
  | 1, h => ⟨Or.inr (hbody h).1, (hbody h).2.choice⟩
  | min + 2, h => ⟨Or.inr (hbody h).1, (atLeast_ends (hbody h).2).2⟩

theorem between_ends {extra : Nat} : ∀ {min : Nat},
    (between greedy a next leave body extra min).Ends →
      (min = 0 ∨ a.isNullable = true) ∧ leave.Ends
  | 0, h => ⟨Or.inl rfl, upTo_ends hbody h⟩
  | _ + 1, h => ⟨Or.inr (hbody h).1, (between_ends (hbody h).2).2⟩

end

/-- A walk through an expression ends only if the expression is nullable and what follows it ends. -/
theorem walk_ends {place : Place} : ∀ {a next : Regex} {leave : Walk},
    (walk place a next leave).Ends → a.isNullable = true ∧ leave.Ends
  | empty, _, _, h => ⟨rfl, h⟩
  | chars _, _, _, ⟨_, h⟩ => by simp [walk] at h
  | look test, _, _, h => by
    rw [walk] at h
    split at h
    · exact ⟨rfl, h⟩
    · exact absurd h Walk.not_ends_stuck
  | seq a b, _, _, h => by
    obtain ⟨ha, h⟩ := walk_ends (a := a) h
    obtain ⟨hb, h⟩ := walk_ends (a := b) h
    exact ⟨by rw [isNullable, ha, hb]; rfl, h⟩
  | alt a b, _, _, h => by
    rcases h.choice.orElse with h | h
    · obtain ⟨ha, h⟩ := walk_ends (a := a) h
      exact ⟨by rw [isNullable, ha, Bool.true_or], h⟩
    · obtain ⟨hb, h⟩ := walk_ends (a := b) h
      exact ⟨by rw [isNullable, hb, Bool.or_true], h⟩
  | rep _ min none a, _, _, h => by
    rw [walk] at h
    obtain ⟨hmin, h⟩ := atLeast_ends (walk_ends (a := a)) h
    exact ⟨by simpa [isNullable] using hmin, h⟩
  | rep _ min (some max) a, _, _, h => by
    rw [walk] at h
    obtain ⟨hmin, h⟩ := between_ends (walk_ends (a := a)) h
    exact ⟨by simpa [isNullable] using hmin, h⟩
  | more _ a, _, _, h => ⟨rfl, anyRounds_ends (walk_ends (a := a)) h⟩

theorem isNullable_of_isDone {place : Place} {a : Regex} (h : (heads place a).any Head.isDone = true) :
    a.isNullable = true := by
  obtain ⟨head, hmem, hdone⟩ := List.any_eq_true.1 h
  cases head with
  | done => exact (walk_ends ⟨[], hmem⟩).1
  | take set next => cases hdone

/-- **An expression that is not nullable has no empty match.** -/
theorem matchLength_pos {a : Regex} (ha : a.isNullable = false) {text : List Char} {n : Nat}
    (h : a.matchLength text = some n) : 0 < n := by
  have hdone : ∀ place, (List.flatMap (heads place) [a]).any Head.isDone = false := fun place => by
    rw [List.flatMap_singleton, Bool.eq_false_iff]
    intro hd
    rw [isNullable_of_isDone hd] at ha
    cases ha
  cases text with
  | nil => simp only [matchLength, follow, hdone, Bool.false_eq_true, if_false, reduceCtorEq] at h
  | cons c rest =>
    simp only [matchLength, follow, hdone, Bool.false_eq_true, if_false] at h
    split at h
    · cases h
    · rcases follow_between h with h | ⟨h, -⟩
      · cases h
      · exact h

end Regex

end GraphLexer
