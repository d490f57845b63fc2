/-
Clean evaluations: no visit on the way fails, and no limit is met.

A clean result goes on after each of its parts, which matches or is rejected (`Clean.bind_cases`), as long
as the failures of that part are told by its events (`Told`). This is so for visits and transitions.
-/
import GraphLexer.Proofs.Evaluator.Limits

namespace GraphLexer

/-- The visit of a node failed. -/
def Event.isFailed : Event → Bool
  | failed _ _ _ => true
  | enter _ _ | matched _ _ _ | rejected _ _ | repeated _ _ _ | accepted _ _ _ => false

namespace Result

/-- A result that is not due to a limit, and no visit failed on the way. -/
structure Clean (r : Result) : Prop where
  unlimited : ¬ r.verdict.Limited
  quiet : ∀ event ∈ r.log, event.isFailed = false

/-- A failure is one of a visit on the way. -/
def Told (r : Result) : Prop :=
  ∀ f, r.verdict = .failed f → ∃ event ∈ r.log, event.isFailed = true

variable {r : Result} {onMatch : Partial → Nat → Result} {onReject : Nat → Result} {log : List Event}

theorem Clean.of_after (h : (r.after log).Clean) : r.Clean :=
  ⟨h.unlimited, fun event hm => h.quiet event (List.mem_append_right _ hm)⟩

theorem Clean.of_bind (h : (r.bind onMatch onReject).Clean) : r.Clean := by
  cases hv : r.verdict with
  | matched p =>
    rw [bind_of_matched hv] at h
    exact ⟨by rw [hv]; exact id, fun event hm => h.quiet event (List.mem_append_left _ hm)⟩
  | rejected =>
    rw [bind_of_rejected hv] at h
    exact ⟨by rw [hv]; exact id, fun event hm => h.quiet event (List.mem_append_left _ hm)⟩
  | failed f => rwa [bind_of_failed hv] at h
  | unfinished => rwa [bind_of_unfinished hv] at h

/-- A clean result goes on after a match or after a rejection. -/
theorem Clean.bind_cases (h : (r.bind onMatch onReject).Clean) (htold : r.Told) :
    (∃ p, r.verdict = .matched p ∧ (onMatch p r.ticks).Clean) ∨
      r.verdict = .rejected ∧ (onReject r.ticks).Clean := by
  cases hv : r.verdict with
  | matched p => rw [bind_of_matched hv] at h; exact Or.inl ⟨p, rfl, h.of_after⟩
  | rejected => rw [bind_of_rejected hv] at h; exact Or.inr ⟨rfl, h.of_after⟩
  | failed f =>
    obtain ⟨event, hm, hf⟩ := htold f hv
    rw [h.of_bind.quiet event hm] at hf
    cases hf
  | unfinished => exact absurd (by rw [hv]; trivial) h.of_bind.unlimited

theorem told_of_not_failed (h : ∀ f, r.verdict ≠ .failed f) : r.Told :=
  fun f hf => absurd hf (h f)

theorem told_visited (id pos : Nat) : (r.visited id pos).Told := by
  intro f hf
  rw [verdict_visited] at hf
  exact ⟨.failed id pos f.cause.kind, by simp [visited, closing, hf], rfl⟩

theorem told_mapFailure {f : Failure → Failure} (h : r.Told) : (r.mapFailure f).Told := by
  cases hv : r.verdict with
  | failed failure =>
    intro _ _
    obtain ⟨event, hm, he⟩ := h failure hv
    exact ⟨event, by rwa [Result.mapFailure, hv], he⟩
  | _ => rwa [mapFailure_of_not_failed (by simp [hv])]

theorem told_after (h : r.Told) : (r.after log).Told := fun f hf =>
  let ⟨event, hm, he⟩ := h f hf
  ⟨event, List.mem_append_right _ hm, he⟩

theorem told_orElse (h : r.Told) (hr : ∀ t, (onReject t).Told) : (r.orElse onReject).Told := by
  cases hv : r.verdict with
  | matched p =>
    rw [orElse, bind_of_matched hv]
    exact told_of_not_failed fun f hf => by cases hf
  | rejected =>
    rw [orElse, bind_of_rejected hv]
    exact told_after (hr _)
  | failed f => rwa [orElse, bind_of_failed hv]
  | unfinished => rwa [orElse, bind_of_unfinished hv]

end Result

namespace Attempt

variable {a : Attempt} {node : GraphNode}

theorem told_visit (levels id pos ticks : Nat) : (a.visit levels id pos ticks).Told := by
  cases levels <;> exact Result.told_visited id pos

theorem told_firstOf {go : Nat → Nat → Result} (h : ∀ id t, (go id t).Told) :
    ∀ ids t, (firstOf go ids t).Told
  | [], _ => Result.told_of_not_failed fun f hf => by cases hf
  | id :: ids, t => Result.told_orElse (h id t) (told_firstOf h ids)

theorem told_transitions {go : Nat → Nat → Nat → Result} (h : ∀ id pos t, (go id pos t).Told)
    (pos t : Nat) : (transitions go node pos t).Told := by
  unfold transitions
  split
  · exact Result.told_of_not_failed fun f hf => by cases hf
  · exact Result.told_mapFailure (told_firstOf (fun id => h id pos) _ t)

theorem clean_of_tick {pos ticks : Nat} {next : Nat → Result} (h : (a.tick pos ticks next).Clean) :
    (next (counted ticks)).Clean ∧ a.tick pos ticks next = next (counted ticks) := by
  unfold tick at h ⊢
  split at h
  · exact absurd rfl h.unlimited
  · next hlimit => exact ⟨h, if_neg hlimit⟩

theorem verdict_giveUp (pos ticks : Nat) : (a.giveUp node pos ticks).verdict =
    if node.commit then
      .failed ⟨.noTransition node.transitions.length (a.graph.describe node.step), [], [], pos⟩
    else .rejected := by
  unfold giveUp noMatch
  split <;> rfl

end Attempt

end GraphLexer
