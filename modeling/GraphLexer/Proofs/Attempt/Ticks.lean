/-
Ticks take no part in what is chosen.

The number of ticks is only compared with its limit, and set back to zero. So what does not run into a
limit comes to the same with fewer ticks before it, and leaves no more of them; and under a limit that
cannot be exceeded, with any number of ticks. This is kept by all the ways in which an attempt is put
together, hence it holds of every visit (`tickless_visit`).
-/
import GraphLexer.Proofs.Evaluator.Limits

namespace GraphLexer

/-- No more ticks than some others, if they can be too many. -/
def Limits.Eases (limits : Limits) (t t' : Nat) : Prop :=
  limits.Binds → t' ≤ t

/-- The same verdict after no more ticks, unless the first verdict is due to a limit. -/
def Result.Eases (limits : Limits) (r s : Result) : Prop :=
  r.verdict.Limited ∨ s.verdict = r.verdict ∧ limits.Eases r.ticks s.ticks

/-- What it comes to depends on the ticks before it by their limit only. -/
def Tickless (limits : Limits) (f : Nat → Result) : Prop :=
  ∀ t t', limits.Eases t t' → (f t).Eases limits (f t')

namespace Result.Eases

variable {limits : Limits} {r s : Result}

theorem bind {onMatch : Partial → Nat → Result} {onReject : Nat → Result} (h : Eases limits r s)
    (hm : ∀ p, Tickless limits (onMatch p)) (hr : Tickless limits onReject) :
    Eases limits (r.bind onMatch onReject) (s.bind onMatch onReject) := by
  rcases h with h | ⟨hs, ht⟩
  · left
    cases hv : r.verdict with
    | matched | rejected => exact (hv ▸ h).elim
    | failed => rwa [bind_of_failed hv]
    | unfinished => rwa [bind_of_unfinished hv]
  · cases hv : r.verdict with
    | matched p => rw [bind_of_matched hv, bind_of_matched (hs.trans hv)]; exact hm p _ _ ht
    | rejected => rw [bind_of_rejected hv, bind_of_rejected (hs.trans hv)]; exact hr _ _ ht
    | failed => rw [bind_of_failed hv, bind_of_failed (hs.trans hv)]; exact Or.inr ⟨hs, ht⟩
    | unfinished => rw [bind_of_unfinished hv]; exact Or.inl (hv ▸ trivial)

theorem mapFailure (h : Eases limits r s) (step : Step) :
    Eases limits (r.mapFailure (Attempt.record step)) (s.mapFailure (Attempt.record step)) := by
  rcases h with h | ⟨hs, ht⟩
  · exact Or.inl (ok_mapFailure h (Attempt.stops_limited.record step))
  · refine Or.inr ⟨?_, by simpa only [Result.ticks_mapFailure] using ht⟩
    unfold Result.mapFailure; rw [hs]; split
    · rfl
    · exact hs

end Result.Eases

namespace Tickless

variable {limits : Limits} {f : Nat → Result}

theorem const (r : Result) : Tickless limits fun _ => r :=
  fun _ _ _ => Or.inr ⟨rfl, fun _ => Nat.le_refl _⟩

theorem rejected : Tickless limits .rejected :=
  fun _ _ h => Or.inr ⟨rfl, h⟩

theorem matched (p : Partial) : Tickless limits (.matched p) :=
  fun _ _ h => Or.inr ⟨rfl, h⟩

theorem failed (cause : Cause) (pos : Nat) : Tickless limits (.failed cause pos) :=
  fun _ _ h => Or.inr ⟨rfl, h⟩

theorem bind {onMatch : Partial → Nat → Result} {onReject : Nat → Result} (h : Tickless limits f)
    (hm : ∀ p, Tickless limits (onMatch p)) (hr : Tickless limits onReject) :
    Tickless limits fun t => (f t).bind onMatch onReject :=
  fun t t' hle => (h t t' hle).bind hm hr

theorem orElse {onReject : Nat → Result} (h : Tickless limits f) (hr : Tickless limits onReject) :
    Tickless limits fun t => (f t).orElse onReject :=
  h.bind matched hr

theorem mapFailure (h : Tickless limits f) (step : Step) :
    Tickless limits fun t => (f t).mapFailure (Attempt.record step) :=
  fun t t' hle => (h t t' hle).mapFailure step

theorem after (h : Tickless limits f) (log : List Event) : Tickless limits fun t => (f t).after log :=
  h

theorem visited (h : Tickless limits f) (id pos : Nat) : Tickless limits fun t => (f t).visited id pos :=
  h

end Tickless

namespace Attempt

variable {a : Attempt} {node : GraphNode} {id pos : Nat}

theorem tickless_tick {next : Nat → Result} (h : Tickless a.limits next) :
    Tickless a.limits fun t => a.tick pos t next := by
  intro t t' hle
  simp only [tick]
  by_cases hlimit : a.limits.Exceeded t
  · rw [if_pos hlimit]; exact Or.inl rfl
  · have hlimit' : ¬ a.limits.Exceeded t' := fun hexceeded => hlimit
      ⟨hexceeded.1, Nat.lt_of_lt_of_le hexceeded.2 (Nat.succ_le_succ (hle hexceeded.1))⟩
    rw [if_neg hlimit, if_neg hlimit']
    refine h _ _ fun hb => ?_
    rw [counted_of_binds hb hlimit, counted_of_binds hb hlimit']
    exact Nat.succ_le_succ (hle hb)

theorem tickless_giveUp : Tickless a.limits (a.giveUp node pos) := by
  unfold giveUp noMatch
  split
  · exact .failed _ _
  · exact .rejected

theorem tickless_firstOf {go : Nat → Nat → Result} (h : ∀ id, Tickless a.limits (go id)) :
    ∀ ids, Tickless a.limits (firstOf go ids)
  | [] => .rejected
  | id :: ids => (h id).orElse (tickless_firstOf h ids)

theorem tickless_loop {start : Nat} {r : Repetition} {round leave : Nat → Nat → Result}
    (hround : ∀ at_, Tickless a.limits (round at_)) (hleave : ∀ at_, Tickless a.limits (leave at_)) :
    ∀ fuel count at_, Tickless a.limits (a.loop id node r start round leave fuel count at_)
  | 0, _, _ => fun _ _ _ => Or.inl trivial
  | fuel + 1, count, at_ => by
    have ih : ∀ at_, Tickless a.limits (a.loop id node r start round leave fuel (count + 1) at_) :=
      tickless_loop hround hleave fuel (count + 1)
    have hearly : Tickless a.limits fun t =>
        if (r.min.toNat ≤ count ∧ ¬ r.greedy) ∨ atMax r count then leave at_ t else .rejected t := by
      split
      · exact hleave at_
      · exact .rejected
    refine hearly.orElse ?_
    by_cases hmax : atMax r count
    · simp only [if_pos hmax]
      split
      · exact tickless_giveUp
      · exact .rejected
    simp only [if_neg hmax]
    refine (hround at_).bind (fun p => ?_) ?_
    · have hnext := ((ih (at_ + p.len)).bind (fun q => .matched (p.after q)) .rejected).after
        [.repeated id (count + 1) (at_ + p.len - start)]
      split
      · exact .const _
      · exact tickless_tick hnext
    · split
      · split
        · exact tickless_giveUp
        · exact .rejected
      · split
        · exact (hleave at_).orElse tickless_giveUp
        · exact tickless_giveUp

section
variable {go : Nat → Nat → Nat → Result} (hgo : ∀ id pos, Tickless a.limits (go id pos))
include hgo

theorem tickless_transitions : Tickless a.limits (transitions go node pos) := by
  unfold transitions
  split
  · exact .matched _
  · exact (tickless_firstOf (fun id => hgo id pos) _).mapFailure _

theorem tickless_advance {n : Nat} : Tickless a.limits (a.advance go id node pos n) := by
  refine ((tickless_transitions hgo).bind (fun p => ?_) tickless_giveUp).after _
  split
  · exact .const _
  · exact .matched _

theorem tickless_perform : Tickless a.limits (a.perform go id pos) := by
  intro t t' hle
  cases hn : a.graph.node? id with
  | none => rw [perform_of_none hn, perform_of_none hn]; exact Tickless.rejected t t' hle
  | some node =>
    cases hstep : node.step with
    | state name =>
      rw [perform_state hn hstep, perform_state hn hstep]
      exact tickless_transitions hgo t t' hle
    | applyTag tag =>
      rw [perform_applyTag hn hstep, perform_applyTag hn hstep]
      exact (tickless_transitions hgo t t' hle).bind (fun p => .matched _) (tickless_giveUp.mapFailure _)
    | subState target r =>
      cases he : a.graph.entryOf target with
      | none =>
        rw [perform_undefined hn hstep he, perform_undefined hn hstep he]
        exact Tickless.failed _ _ t t' hle
      | some entry =>
        rw [perform_subState hn hstep he, perform_subState hn hstep he]
        exact tickless_loop (hgo entry) (fun _ => tickless_transitions hgo) _ _ _ t t' hle
    | _ =>
      have hm : node.step.isMatcher = true := by rw [hstep]; rfl
      rw [perform_matcher hn hm, perform_matcher hn hm]
      cases a.taken pos node.step with
      | none => exact Tickless.rejected t t' hle
      | some n => exact tickless_advance hgo t t' hle

end

/-- **Ticks take no part in what a visit comes to**, by induction on the levels to spare. -/
theorem tickless_visit : ∀ levels id pos, Tickless a.limits (a.visit levels id pos)
  | 0, id, pos => (tickless_tick (.failed _ _)).visited id pos
  | levels + 1, id, pos => (tickless_tick (tickless_perform (tickless_visit levels))).visited id pos

end Attempt

end GraphLexer
