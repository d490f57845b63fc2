/-
Attempts do not depend on what stands before them.

`Result.Moved k r s` says that a result is another one with all its positions moved by `k`. An attempt
that `Follows` another one at a distance `k`, so that its nodes take `k` units further on what the nodes
of the other one take, makes the same of every visit, moved by `k` (`Follows.visit`). The attempts on a
text follow those on its end (`follows_append`).
-/
import GraphLexer.Proofs.Attempt.Perform
import GraphLexer.Proofs.Attempt.Result
import GraphLexer.Proofs.Tag.Maps

namespace GraphLexer

/-- A match with its tags moved to the right. -/
def Partial.move (k : Nat) (p : Partial) : Partial :=
  ⟨p.len, Tag.maps id (k + ·) p.tags⟩

/-- A verdict with its positions moved to the right. -/
def Verdict.move (k : Nat) : Verdict → Verdict
  | .matched p => .matched (p.move k)
  | .rejected => .rejected
  | .failed f => .failed { f with stop := k + f.stop }
  | .unfinished => .unfinished

@[simp] theorem Partial.len_move (k : Nat) (p : Partial) : (p.move k).len = p.len := rfl

theorem Partial.move_after (k : Nat) (p q : Partial) :
    (p.after q).move k = (p.move k).after (q.move k) := by
  simp only [move, after, Tag.maps_append]

namespace Result

/-- The first result is the second one with all positions moved to the right. -/
structure Moved (k : Nat) (r s : Result) : Prop where
  verdict : r.verdict = s.verdict.move k
  ticks : r.ticks = s.ticks

namespace Moved

variable {k : Nat} {r s : Result}

theorem after (h : Moved k r s) (log log' : List Event) : Moved k (r.after log) (s.after log') :=
  ⟨h.verdict, h.ticks⟩

theorem visited (h : Moved k r s) (id pos pos' : Nat) :
    Moved k (r.visited id pos) (s.visited id pos') :=
  ⟨h.verdict, h.ticks⟩

theorem bind {onMatch onMatch' : Partial → Nat → Result} {onReject onReject' : Nat → Result}
    (h : Moved k r s) (hm : ∀ p t, Moved k (onMatch (p.move k) t) (onMatch' p t))
    (hr : ∀ t, Moved k (onReject t) (onReject' t)) :
    Moved k (r.bind onMatch onReject) (s.bind onMatch' onReject') := by
  have hv := h.verdict
  cases hs : s.verdict with
  | matched p =>
    rw [hs] at hv
    rw [bind_of_matched hs, bind_of_matched hv, h.ticks]
    exact (hm p _).after _ _
  | rejected =>
    rw [hs] at hv
    rw [bind_of_rejected hs, bind_of_rejected hv, h.ticks]
    exact (hr _).after _ _
  | failed f =>
    rw [hs] at hv
    rw [bind_of_failed hs, bind_of_failed hv]
    exact h
  | unfinished =>
    rw [hs] at hv
    rw [bind_of_unfinished hs, bind_of_unfinished hv]
    exact h

theorem orElse {onReject onReject' : Nat → Result} (h : Moved k r s)
    (hr : ∀ t, Moved k (onReject t) (onReject' t)) :
    Moved k (r.orElse onReject) (s.orElse onReject') :=
  h.bind (fun _ _ => ⟨rfl, rfl⟩) hr

/-- Names are recorded wherever a failure comes from. -/
theorem mapFailure (h : Moved k r s) (step : Step) :
    Moved k (r.mapFailure (Attempt.record step)) (s.mapFailure (Attempt.record step)) := by
  refine ⟨?_, by simpa using h.ticks⟩
  have hv := h.verdict
  cases hs : s.verdict with
  | failed f =>
    rw [hs] at hv
    rw [mapFailure_of_failed hs, mapFailure_of_failed hv]
    cases step <;> rfl
  | _ =>
    rw [hs] at hv
    rw [mapFailure_of_not_failed (by simp [hv, Verdict.move]), mapFailure_of_not_failed (by simp [hs]),
      hs, hv]

end Moved

end Result

namespace Attempt

/-- The first attempt finds `k` units further on what the second one finds. -/
structure Follows (k : Nat) (a b : Attempt) : Prop where
  graph : a.graph = b.graph
  limits : a.limits = b.limits
  patience : a.patience = b.patience
  taken : ∀ pos step, a.taken (k + pos) step = b.taken pos step

/-- Two continuations that come to the same at all positions, `k` units apart. -/
def InStep (k : Nat) (f f' : Nat → Nat → Result) : Prop :=
  ∀ pos t, Result.Moved k (f (k + pos) t) (f' pos t)

/-- An attempt on a text follows the same attempt on an end of the text. -/
theorem follows_append (p r : String) (graph : Graph) (limits : Limits) (n : Nat) :
    Follows (Text.length p) ⟨graph, .ofText (p ++ r), limits, n⟩ ⟨graph, .ofText r, limits, n⟩ where
  graph := rfl
  limits := rfl
  patience := rfl
  taken pos step := by
    cases step <;> simp only [Attempt.taken, Source.hasUnitsAt_append, Source.unit?_append,
      Source.viewFrom_append]

theorem firstOf_moved {k : Nat} {go go' : Nat → Nat → Result}
    (h : ∀ id t, Result.Moved k (go id t) (go' id t)) :
    ∀ ids t, Result.Moved k (firstOf go ids t) (firstOf go' ids t)
  | [], _ => ⟨rfl, rfl⟩
  | id :: ids, t => (h id t).orElse (firstOf_moved h ids)

theorem transitions_moved {k : Nat} {go go' : Nat → Nat → Nat → Result}
    (hgo : ∀ id, InStep k (go id) (go' id)) (node : GraphNode) :
    InStep k (transitions go node) (transitions go' node) := by
  intro pos t
  unfold transitions
  split
  · exact ⟨rfl, rfl⟩
  · exact (firstOf_moved (fun id => hgo id pos) _ t).mapFailure _

namespace Follows

variable {k : Nat} {a b : Attempt} (H : Follows k a b)
include H

theorem tick {next next' : Nat → Result} (h : ∀ t, Result.Moved k (next t) (next' t)) (pos t : Nat) :
    Result.Moved k (a.tick (k + pos) t next) (b.tick pos t next') := by
  rw [Attempt.tick, Attempt.tick, H.limits]
  split
  · exact ⟨rfl, rfl⟩
  · exact h _

theorem giveUp (node : GraphNode) : InStep k (a.giveUp node) (b.giveUp node) := by
  intro pos t
  rw [Attempt.giveUp, Attempt.giveUp, noMatch, noMatch, H.graph]
  split <;> exact ⟨rfl, rfl⟩

/-- The rounds of an invocation, by induction on their number. -/
theorem loop {id start start' : Nat} {node : GraphNode} {r : Repetition}
    {round round' leave leave' : Nat → Nat → Result} (hround : InStep k round round')
    (hleave : InStep k leave leave') : ∀ fuel count, InStep k
      (a.loop id node r start round leave fuel count) (b.loop id node r start' round' leave' fuel count)
  | 0, _, _, _ => ⟨rfl, rfl⟩
  | fuel + 1, count, at_, ticks => by
    rw [Attempt.loop, Attempt.loop]
    refine Result.Moved.orElse ?_ fun t => ?_
    · split
      · exact hleave at_ ticks
      · exact ⟨rfl, rfl⟩
    split
    · split
      · exact H.giveUp node at_ t
      · exact ⟨rfl, rfl⟩
    refine (hround at_ t).bind (fun p t => ?_) fun t => ?_
    · have hnext : ∀ t, Result.Moved k
          (((a.loop id node r start round leave fuel (count + 1) (k + at_ + p.len) t).bind
            (fun q ticks => .matched ((p.move k).after q) ticks) .rejected).after
              [.repeated id (count + 1) (k + at_ + p.len - start)])
          (((b.loop id node r start' round' leave' fuel (count + 1) (at_ + p.len) t).bind
            (fun q ticks => .matched (p.after q) ticks) .rejected).after
              [.repeated id (count + 1) (at_ + p.len - start')]) := fun t => by
        rw [Nat.add_assoc]
        refine ((loop hround hleave fuel (count + 1) (at_ + p.len) t).bind (fun q t => ?_)
          fun t => ⟨rfl, rfl⟩).after _ _
        exact ⟨congrArg Verdict.matched (p.move_after k q).symm, rfl⟩
      rw [Partial.len_move]
      by_cases hp : 0 < p.len
      · rw [if_pos hp, if_pos hp]; exact hnext 0
      · rw [if_neg hp, if_neg hp]; exact H.tick hnext at_ t
    · split
      · split
        · exact H.giveUp node at_ t
        · exact ⟨rfl, rfl⟩
      · split
        · exact (hleave at_ t).orElse (H.giveUp node at_)
        · exact H.giveUp node at_ t

section
variable {go go' : Nat → Nat → Nat → Result} (hgo : ∀ id, InStep k (go id) (go' id))
include hgo

theorem advance (id : Nat) (node : GraphNode) (n pos t : Nat) :
    Result.Moved k (a.advance go id node (k + pos) n t) (b.advance go' id node pos n t) := by
  rw [Attempt.advance, Attempt.advance, Nat.add_assoc]
  refine Result.Moved.after ?_ _ _
  refine (transitions_moved hgo node (pos + n) t).bind (fun p t => ?_) (H.giveUp node (pos + n))
  exact ⟨rfl, rfl⟩

theorem perform (id : Nat) : InStep k (a.perform go id) (b.perform go' id) := by
  intro pos t
  have hnode : a.graph.node? id = b.graph.node? id := by rw [H.graph]
  cases hn : b.graph.node? id with
  | none => rw [perform_of_none hn, perform_of_none (hnode.trans hn)]; exact ⟨rfl, rfl⟩
  | some node =>
    have hn' := hnode.trans hn
    cases hs : node.step with
    | state name =>
      rw [perform_state hn hs, perform_state hn' hs]
      exact transitions_moved hgo node pos t
    | applyTag tag =>
      rw [perform_applyTag hn hs, perform_applyTag hn' hs]
      refine (transitions_moved hgo node pos t).bind (fun p t => ?_)
        fun t => (H.giveUp node pos t).mapFailure _
      exact ⟨rfl, rfl⟩
    | subState target r =>
      have hentry : a.graph.entryOf target = b.graph.entryOf target := by rw [H.graph]
      cases he : b.graph.entryOf target with
      | none =>
        rw [perform_undefined hn hs he, perform_undefined hn' hs (hentry.trans he), H.graph]
        exact ⟨rfl, rfl⟩
      | some entry =>
        rw [perform_subState hn hs he, perform_subState hn' hs (hentry.trans he), rounds, rounds,
          H.patience]
        exact H.loop (hgo entry) (transitions_moved hgo node) _ 0 pos t
    | _ =>
      have hm : node.step.isMatcher = true := by rw [hs]; rfl
      rw [perform_matcher hn hm, perform_matcher hn' hm, H.taken]
      cases b.taken pos node.step with
      | none => exact ⟨rfl, rfl⟩
      | some n => exact H.advance hgo id node n pos t

end

/-- **A visit does not depend on what stands before it**, by induction on the levels to spare. -/
theorem visit : ∀ levels id, InStep k (a.visit levels id) (b.visit levels id)
  | 0, id, pos, t => by
    rw [Attempt.visit, Attempt.visit, H.limits]
    refine (H.tick (fun t => ?_) pos t).visited id _ _
    exact ⟨rfl, rfl⟩
  | levels + 1, id, pos, t =>
    (H.tick (fun t => H.perform (visit levels) id pos t) pos t).visited id _ _

end Follows

end Attempt

end GraphLexer
