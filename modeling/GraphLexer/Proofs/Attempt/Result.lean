/-
How the combinators of results act on verdicts and ticks.
-/
import GraphLexer.Attempt.Result

namespace GraphLexer.Result

variable {r : Result} {onMatch : Partial → Nat → Result} {onReject : Nat → Result}

@[simp] theorem verdict_after (log : List Event) (r : Result) : (r.after log).verdict = r.verdict := rfl

@[simp] theorem verdict_visited (node pos : Nat) (r : Result) :
    (r.visited node pos).verdict = r.verdict := rfl

@[simp] theorem ticks_mapFailure (f : Failure → Failure) (r : Result) :
    (r.mapFailure f).ticks = r.ticks := by
  unfold mapFailure; split <;> rfl

@[simp] theorem log_mapFailure (f : Failure → Failure) (r : Result) :
    (r.mapFailure f).log = r.log := by
  unfold mapFailure; split <;> rfl

theorem mapFailure_of_failed {f : Failure → Failure} {failure : Failure}
    (h : r.verdict = .failed failure) : (r.mapFailure f).verdict = .failed (f failure) := by
  unfold mapFailure; rw [h]

theorem mapFailure_of_not_failed {f : Failure → Failure} (h : ∀ failure, r.verdict ≠ .failed failure) :
    r.mapFailure f = r := by
  unfold mapFailure; split
  · next failure hf => exact absurd hf (h failure)
  · rfl

theorem bind_of_matched {p : Partial} (h : r.verdict = .matched p) :
    r.bind onMatch onReject = (onMatch p r.ticks).after r.log := by
  unfold bind; rw [h]

theorem bind_of_rejected (h : r.verdict = .rejected) :
    r.bind onMatch onReject = (onReject r.ticks).after r.log := by
  unfold bind; rw [h]

theorem bind_of_failed {f : Failure} (h : r.verdict = .failed f) : r.bind onMatch onReject = r := by
  unfold bind; rw [h]

theorem bind_of_unfinished (h : r.verdict = .unfinished) : r.bind onMatch onReject = r := by
  unfold bind; rw [h]

/-- Only what a result goes on with plays a part. -/
theorem bind_congr {onMatch' : Partial → Nat → Result} {onReject' : Nat → Result}
    (hm : ∀ p, r.verdict = .matched p → ∀ t, onMatch p t = onMatch' p t)
    (hr : r.verdict = .rejected → ∀ t, onReject t = onReject' t) :
    r.bind onMatch onReject = r.bind onMatch' onReject' := by
  cases hv : r.verdict with
  | matched p => rw [bind_of_matched hv, bind_of_matched hv, hm p hv]
  | rejected => rw [bind_of_rejected hv, bind_of_rejected hv, hr hv]
  | failed f => rw [bind_of_failed hv, bind_of_failed hv]
  | unfinished => rw [bind_of_unfinished hv, bind_of_unfinished hv]

/-! ## Predicates on verdicts -/

section
variable {P Q : Verdict → Prop}

theorem ok_bind (h : P r.verdict) (matched : ∀ p t, P (.matched p) → Q (onMatch p t).verdict)
    (rejected : ∀ t, Q (onReject t).verdict) (failed : ∀ f, P (.failed f) → Q (.failed f))
    (unfinished : Q .unfinished) : Q (r.bind onMatch onReject).verdict := by
  cases hv : r.verdict with
  | matched p => rw [bind_of_matched hv]; exact matched p _ (hv ▸ h)
  | rejected => rw [bind_of_rejected hv]; exact rejected _
  | failed f => rw [bind_of_failed hv, hv]; exact failed f (hv ▸ h)
  | unfinished => rw [bind_of_unfinished hv, hv]; exact unfinished

theorem ok_orElse (h : P r.verdict) (rejected : ∀ t, P (onReject t).verdict) :
    P (r.orElse onReject).verdict := by
  cases hv : r.verdict with
  | matched p => rw [orElse, bind_of_matched hv]; rwa [hv] at h
  | rejected => rw [orElse, bind_of_rejected hv]; exact rejected _
  | failed f => rw [orElse, bind_of_failed hv]; exact h
  | unfinished => rw [orElse, bind_of_unfinished hv]; exact h

theorem ok_mapFailure {f : Failure → Failure} (h : P r.verdict)
    (failed : ∀ failure, P (.failed failure) → P (.failed (f failure))) :
    P (r.mapFailure f).verdict := by
  cases hv : r.verdict with
  | failed failure => rw [mapFailure_of_failed hv]; exact failed _ (hv ▸ h)
  | _ => rwa [mapFailure_of_not_failed (by simp [hv])]

end

/-! ## Results that are cut off -/

theorem bind_eq_unfinished : (r.bind onMatch onReject).verdict = .unfinished ↔
    r.verdict = .unfinished ∨ (∃ p, r.verdict = .matched p ∧ (onMatch p r.ticks).verdict = .unfinished) ∨
      r.verdict = .rejected ∧ (onReject r.ticks).verdict = .unfinished := by
  cases hv : r.verdict with
  | matched p => simp [bind_of_matched hv]
  | rejected => simp [bind_of_rejected hv]
  | failed f => simp [bind_of_failed hv, hv]
  | unfinished => simp [bind_of_unfinished hv, hv]

theorem mapFailure_eq_unfinished {f : Failure → Failure} :
    (r.mapFailure f).verdict = .unfinished ↔ r.verdict = .unfinished := by
  cases hv : r.verdict with
  | failed failure => simp [mapFailure_of_failed hv]
  | _ => rw [mapFailure_of_not_failed (by simp [hv]), hv]

/-! ## Matches and rejections -/

theorem bind_eq_matched {m : Partial} : (r.bind onMatch onReject).verdict = .matched m ↔
    (∃ p, r.verdict = .matched p ∧ (onMatch p r.ticks).verdict = .matched m) ∨
      r.verdict = .rejected ∧ (onReject r.ticks).verdict = .matched m := by
  cases hv : r.verdict with
  | matched p => simp [bind_of_matched hv]
  | rejected => simp [bind_of_rejected hv]
  | failed f => simp [bind_of_failed hv, hv]
  | unfinished => simp [bind_of_unfinished hv, hv]

theorem bind_eq_rejected : (r.bind onMatch onReject).verdict = .rejected ↔
    (∃ p, r.verdict = .matched p ∧ (onMatch p r.ticks).verdict = .rejected) ∨
      r.verdict = .rejected ∧ (onReject r.ticks).verdict = .rejected := by
  cases hv : r.verdict with
  | matched p => simp [bind_of_matched hv]
  | rejected => simp [bind_of_rejected hv]
  | failed f => simp [bind_of_failed hv, hv]
  | unfinished => simp [bind_of_unfinished hv, hv]

theorem orElse_eq_matched {m : Partial} : (r.orElse onReject).verdict = .matched m ↔
    r.verdict = .matched m ∨ r.verdict = .rejected ∧ (onReject r.ticks).verdict = .matched m := by
  simp [orElse, bind_eq_matched, matched]

theorem orElse_eq_rejected : (r.orElse onReject).verdict = .rejected ↔
    r.verdict = .rejected ∧ (onReject r.ticks).verdict = .rejected := by
  simp [orElse, bind_eq_rejected, matched]

theorem mapFailure_eq_matched {f : Failure → Failure} {m : Partial} :
    (r.mapFailure f).verdict = .matched m ↔ r.verdict = .matched m := by
  cases hv : r.verdict with
  | failed failure => simp [mapFailure_of_failed hv]
  | _ => rw [mapFailure_of_not_failed (by simp [hv]), hv]

theorem mapFailure_eq_rejected {f : Failure → Failure} :
    (r.mapFailure f).verdict = .rejected ↔ r.verdict = .rejected := by
  cases hv : r.verdict with
  | failed failure => simp [mapFailure_of_failed hv]
  | _ => rw [mapFailure_of_not_failed (by simp [hv]), hv]

end GraphLexer.Result
