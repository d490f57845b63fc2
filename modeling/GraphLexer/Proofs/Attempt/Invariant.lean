/-
What holds of all verdicts of an attempt.

An `Invariant` is a predicate on positions and verdicts that holds where a failure is raised and where
nothing is matched, and that every step of an attempt keeps: putting a tag around a match, going on
after units were taken, joining rounds of an invocation, and recording a name in a failure. It then
holds of every visit (`Invariant.visit`). The nodes may be restricted to those that are `live`, a set
that transitions and invocations do not leave.
-/
import GraphLexer.Proofs.Attempt.Perform
import GraphLexer.Proofs.Attempt.Result

namespace GraphLexer.Attempt

/-- The causes of failures that are raised at a node. -/
inductive Raises (a : Attempt) (id : Nat) : Cause → Prop
  | ticks : Raises a id (.ticks a.limits.ticks.toNat)
  | depth : Raises a id (.depth a.limits.depth.toNat)
  /-- the node invokes a state that is not defined -/
  | unknownState {node : GraphNode} {target : Nat} {r : Repetition} : a.graph.node? id = some node →
      node.step = .subState target r → a.graph.entryOf target = none →
      Raises a id (.unknownState (a.graph.states.name target))
  /-- the node is committed -/
  | noTransition {node : GraphNode} : a.graph.node? id = some node → node.commit = true →
      Raises a id (.noTransition node.transitions.length (a.graph.describe node.step))

/-- A predicate on verdicts at positions that every step of an attempt keeps, at the nodes `live`. -/
structure Invariant (a : Attempt) (live : Nat → Prop) (ok : Nat → Verdict → Prop) : Prop where
  transition : ∀ {id node next}, live id → a.graph.node? id = some node → next ∈ node.transitions →
    live next
  entry : ∀ {id node target r entry}, live id → a.graph.node? id = some node →
    node.step = .subState target r → a.graph.entryOf target = some entry → live entry
  rejected : ∀ {pos}, ok pos .rejected
  unfinished : ∀ {pos}, ok pos .unfinished
  empty : ∀ {pos}, ok pos (.matched .empty)
  raised : ∀ {id pos cause}, live id → a.Raises id cause → ok pos (.failed ⟨cause, [], [], pos⟩)
  record : ∀ {id node pos f}, live id → a.graph.node? id = some node → ok pos (.failed f) →
    ok pos (.failed (record node.step f))
  tagged : ∀ {id node tag pos p}, live id → a.graph.node? id = some node → node.step = .applyTag tag →
    ok pos (.matched p) → ok pos (.matched ⟨p.len, [⟨tag, pos, p.len, p.tags⟩]⟩)
  /-- a match is no longer than what is left -/
  len_le : ∀ {pos p}, ok pos (.matched p) → p.len ≤ a.left pos
  /-- a failure after units were taken -/
  later : ∀ {pos n f}, n ≤ a.left pos → ok (pos + n) (.failed f) → ok pos (.failed f)
  /-- a match after units were taken -/
  advance : ∀ {pos n p}, n ≤ a.left pos → ok (pos + n) (.matched p) →
    ok pos (.matched ⟨p.len + n, p.tags⟩)
  /-- a match after another one -/
  after : ∀ {pos p q}, ok pos (.matched p) → ok (pos + p.len) (.matched q) →
    ok pos (.matched (p.after q))

variable {a : Attempt} {live : Nat → Prop} {ok : Nat → Verdict → Prop}

namespace Invariant

variable (I : Invariant a live ok)
include I

theorem tick {id pos ticks : Nat} {next : Nat → Result} (hid : live id)
    (h : ∀ t, ok pos (next t).verdict) : ok pos (a.tick pos ticks next).verdict := by
  unfold Attempt.tick; split
  · exact I.raised hid .ticks
  · exact h _

theorem firstOf {go : Nat → Nat → Result} {pos : Nat} :
    ∀ {ids : List Nat}, (∀ id ∈ ids, ∀ t, ok pos (go id t).verdict) →
      ∀ {ticks}, ok pos (Attempt.firstOf go ids ticks).verdict
  | [], _, _ => I.rejected
  | id :: _, h, ticks =>
    Result.ok_orElse (h id (by simp) ticks) fun _ => firstOf fun id hm => h id (by simp [hm])

section
variable {id : Nat} {node : GraphNode} (hid : live id) (hn : a.graph.node? id = some node)
include hid hn

theorem giveUp {pos ticks : Nat} : ok pos (a.giveUp node pos ticks).verdict := by
  unfold Attempt.giveUp; split
  · next hc => exact I.raised hid (.noTransition hn hc)
  · exact I.rejected

/-- The rounds of an invocation, by induction on their number. -/
theorem loop {r : Repetition} {start : Nat} {round leave : Nat → Nat → Result}
    (hround : ∀ at_ t, ok at_ (round at_ t).verdict) (hleave : ∀ at_ t, ok at_ (leave at_ t).verdict) :
    ∀ fuel count at_ ticks, ok at_ (a.loop id node r start round leave fuel count at_ ticks).verdict
  | 0, _, _, _ => I.unfinished
  | fuel + 1, count, at_, ticks => by
    rw [Attempt.loop]
    refine Result.ok_orElse ?_ fun t => ?_
    · split
      · exact hleave at_ ticks
      · exact I.rejected
    split
    · split
      · exact I.giveUp hid hn
      · exact I.rejected
    refine Result.ok_bind (P := ok at_) (hround at_ t) (fun p t hp => ?_) (fun t => ?_) (fun _ h => h)
      I.unfinished
    · have hnext : ∀ t, ok at_
          ((((a.loop id node r start round leave fuel (count + 1) (at_ + p.len) t).bind
            (fun q ticks => .matched (p.after q) ticks) .rejected).after
              [.repeated id (count + 1) (at_ + p.len - start)])).verdict := fun t =>
        Result.ok_bind (P := ok (at_ + p.len)) (loop hround hleave fuel (count + 1) (at_ + p.len) t)
          (fun q _ => I.after hp) (fun _ => I.rejected) (fun _ => I.later (I.len_le hp)) I.unfinished
      split
      · exact hnext 0
      · exact I.tick hid hnext
    · split
      · split
        · exact I.giveUp hid hn
        · exact I.rejected
      · split
        · exact Result.ok_orElse (hleave at_ t) fun _ => I.giveUp hid hn
        · exact I.giveUp hid hn

variable {go : Nat → Nat → Nat → Result} (hgo : ∀ id, live id → ∀ pos t, ok pos (go id pos t).verdict)
include hgo

theorem transitions {pos ticks : Nat} : ok pos (Attempt.transitions go node pos ticks).verdict := by
  unfold Attempt.transitions; split
  · exact I.empty
  · refine Result.ok_mapFailure ?_ fun f => I.record hid hn
    exact I.firstOf fun next hm t => hgo next (I.transition hid hn hm) pos t

theorem advances {pos n ticks : Nat} (hle : n ≤ a.left pos) :
    ok pos (a.advance go id node pos n ticks).verdict := by
  unfold Attempt.advance
  rw [Result.verdict_after]
  refine Result.ok_bind (P := ok (pos + n)) (I.transitions hid hn hgo) (fun p _ => I.advance hle)
    (fun t => ?_) (fun f => I.later hle) I.unfinished
  unfold Attempt.giveUp; split
  · next hc => exact I.later hle (I.raised hid (.noTransition hn hc))
  · exact I.rejected

end

section
variable {text : String} (hs : a.source = Source.ofText text)
include hs

theorem perform {go : Nat → Nat → Nat → Result}
    (hgo : ∀ id, live id → ∀ pos t, ok pos (go id pos t).verdict) {id pos ticks : Nat}
    (hid : live id) : ok pos (a.perform go id pos ticks).verdict := by
  cases hn : a.graph.node? id with
  | none => rw [perform_of_none hn]; exact I.rejected
  | some node =>
    cases hstep : node.step with
    | state name => rw [perform_state hn hstep]; exact I.transitions hid hn hgo
    | applyTag tag =>
      rw [perform_applyTag hn hstep]
      exact Result.ok_bind (P := ok pos) (I.transitions hid hn hgo) (fun p _ => I.tagged hid hn hstep)
        (fun t => Result.ok_mapFailure (I.giveUp hid hn) fun f => I.record hid hn) (fun _ h => h)
        I.unfinished
    | subState target r =>
      cases he : a.graph.entryOf target with
      | none => rw [perform_undefined hn hstep he]; exact I.raised hid (.unknownState hn hstep he)
      | some entry =>
        rw [perform_subState hn hstep he]
        exact I.loop hid hn (fun at_ t => hgo entry (I.entry hid hn hstep he) at_ t)
          (fun at_ t => I.transitions hid hn hgo) _ _ _ _
    | _ =>
      rw [perform_matcher hn (by rw [hstep]; rfl)]
      cases htaken : a.taken pos node.step with
      | none => exact I.rejected
      | some n => exact I.advances hid hn hgo (taken_le hs htaken)

/-- **An invariant holds of every visit**, by induction on the levels to spare. -/
theorem visit : ∀ {levels id pos ticks : Nat}, live id → ok pos (a.visit levels id pos ticks).verdict
  | 0, _, _, _, hid => by
    rw [Attempt.visit, Result.verdict_visited]
    exact I.tick hid fun _ => I.raised hid .depth
  | levels + 1, id, pos, ticks, hid => by
    rw [Attempt.visit, Result.verdict_visited]
    exact I.tick hid fun _ => I.perform hs (fun _ hid' _ _ => visit hid') hid

end

end Invariant

end GraphLexer.Attempt
