/-
Two attempts that go the same way.

`Result.Upto out r s` says that two results have the same verdict and ticks unless the first one has a
verdict in `out`, such as being cut off. `Refines out a b` says that two attempts make the same of
every single step, up to `out`; then they make the same of every visit (`Refines.visit`).
-/
import GraphLexer.Proofs.Attempt.Perform
import GraphLexer.Proofs.Attempt.Result

namespace GraphLexer

/-- The same verdict and ticks, unless the first verdict is let go. -/
def Result.Upto (out : Verdict → Prop) (r s : Result) : Prop :=
  out r.verdict ∨ r.verdict = s.verdict ∧ r.ticks = s.ticks

/-- Verdicts that may be let go: an attempt stops at them, and they pass through its nodes. -/
structure Verdict.Stops (out : Verdict → Prop) : Prop where
  matched : ∀ p, ¬ out (.matched p)
  rejected : ¬ out .rejected
  unfinished : out .unfinished
  record : ∀ step f, out (.failed f) → out (.failed (Attempt.record step f))

namespace Result.Upto

variable {out : Verdict → Prop} {r s : Result}

theorem refl (r : Result) : Upto out r r := Or.inr ⟨rfl, rfl⟩

theorem after (h : Upto out r s) (log log' : List Event) : Upto out (r.after log) (s.after log') := h

theorem visited (h : Upto out r s) (id pos : Nat) : Upto out (r.visited id pos) (s.visited id pos) := h

variable (ho : Verdict.Stops out)
include ho

/-- A match is found by the second run as well. -/
theorem of_matched (h : Upto out r s) {p : Partial} (hv : r.verdict = .matched p) :
    s.verdict = .matched p ∧ s.ticks = r.ticks := by
  rcases h with h | ⟨h, ht⟩
  · exact absurd (hv ▸ h) (ho.matched p)
  · exact ⟨h ▸ hv, ht.symm⟩

/-- So is a rejection. -/
theorem of_rejected (h : Upto out r s) (hv : r.verdict = .rejected) :
    s.verdict = .rejected ∧ s.ticks = r.ticks := by
  rcases h with h | ⟨h, ht⟩
  · exact absurd (hv ▸ h) ho.rejected
  · exact ⟨h ▸ hv, ht.symm⟩

theorem bind {onMatch onMatch' : Partial → Nat → Result} {onReject onReject' : Nat → Result}
    (h : Upto out r s) (hm : ∀ p t, Upto out (onMatch p t) (onMatch' p t))
    (hr : ∀ t, Upto out (onReject t) (onReject' t)) :
    Upto out (r.bind onMatch onReject) (s.bind onMatch' onReject') := by
  cases hv : r.verdict with
  | matched p =>
    obtain ⟨hs, ht⟩ := of_matched ho h hv
    rw [bind_of_matched hv, bind_of_matched hs, ht]
    exact (hm p _).after _ _
  | rejected =>
    obtain ⟨hs, ht⟩ := of_rejected ho h hv
    rw [bind_of_rejected hv, bind_of_rejected hs, ht]
    exact (hr _).after _ _
  | failed f =>
    rw [bind_of_failed hv]
    rcases h with h | ⟨h, ht⟩
    · exact Or.inl h
    · rw [bind_of_failed (h ▸ hv)]; exact Or.inr ⟨h, ht⟩
  | unfinished => rw [bind_of_unfinished hv]; exact Or.inl (hv ▸ ho.unfinished)

theorem orElse {onReject onReject' : Nat → Result} (h : Upto out r s)
    (hr : ∀ t, Upto out (onReject t) (onReject' t)) :
    Upto out (r.orElse onReject) (s.orElse onReject') :=
  h.bind ho (fun _ _ => refl _) hr

theorem mapFailure (h : Upto out r s) (step : Step) :
    Upto out (r.mapFailure (Attempt.record step)) (s.mapFailure (Attempt.record step)) := by
  rcases h with h | ⟨h, ht⟩
  · exact Or.inl (ok_mapFailure h (ho.record step))
  · refine Or.inr ⟨?_, by simpa using ht⟩
    unfold Result.mapFailure; rw [← h]; split
    · rfl
    · exact h

end Result.Upto

namespace Attempt

/-- Two nodes that do the same, up to `out`. -/
structure SameNode (out : Verdict → Prop) (a b : Attempt) (node node' : GraphNode) : Prop where
  step : node'.step = node.step
  transitions : node'.transitions = node.transitions
  giveUp : ∀ pos t, Result.Upto out (a.giveUp node pos t) (b.giveUp node' pos t)

/-- Two attempts on the same input that make the same of every single step, up to `out`. The second
    one has at least the patience of the first. -/
structure Refines (out : Verdict → Prop) (a b : Attempt) : Prop extends Verdict.Stops out where
  source : b.source = a.source
  patience : a.patience ≤ b.patience
  entryOf : b.graph.entryOf = a.graph.entryOf
  states : b.graph.states = a.graph.states
  missing : ∀ id, a.graph.node? id = none → b.graph.node? id = none
  node : ∀ id node, a.graph.node? id = some node → ∃ node', b.graph.node? id = some node' ∧
    SameNode out a b node node'
  tick : ∀ pos t {next next' : Nat → Result}, (∀ t, Result.Upto out (next t) (next' t)) →
    Result.Upto out (a.tick pos t next) (b.tick pos t next')

namespace Refines

variable {out : Verdict → Prop} {a b : Attempt} (H : Refines out a b)
include H

theorem firstOf {go go' : Nat → Nat → Result} (h : ∀ id t, Result.Upto out (go id t) (go' id t)) :
    ∀ ids t, Result.Upto out (Attempt.firstOf go ids t) (Attempt.firstOf go' ids t)
  | [], _ => .refl _
  | id :: ids, t => (h id t).orElse H.toStops (firstOf h ids)

section
variable {node node' : GraphNode} (hn : SameNode out a b node node')
include hn

/-- The rounds of an invocation, by induction on the number that the first run may make. -/
theorem loop {id start : Nat} {r : Repetition} {round round' leave leave' : Nat → Nat → Result}
    (hround : ∀ at_ t, Result.Upto out (round at_ t) (round' at_ t))
    (hleave : ∀ at_ t, Result.Upto out (leave at_ t) (leave' at_ t)) :
    ∀ {fuel fuel'}, fuel ≤ fuel' → ∀ count at_ ticks,
      Result.Upto out (a.loop id node r start round leave fuel count at_ ticks)
        (b.loop id node' r start round' leave' fuel' count at_ ticks)
  | 0, _, _, _, _, _ => Or.inl H.unfinished
  | fuel + 1, fuel', hle, count, at_, ticks => by
    obtain ⟨fuel', rfl⟩ : ∃ k, fuel' = k + 1 := ⟨fuel' - 1, by omega⟩
    have ih : ∀ at_ t, Result.Upto out (a.loop id node r start round leave fuel (count + 1) at_ t)
        (b.loop id node' r start round' leave' fuel' (count + 1) at_ t) :=
      loop hround hleave (Nat.le_of_succ_le_succ hle) (count + 1)
    rw [Attempt.loop, Attempt.loop]
    refine Result.Upto.orElse H.toStops ?_ fun t => ?_
    · split
      · exact hleave at_ ticks
      · exact .refl _
    split
    · split
      · exact hn.giveUp at_ t
      · exact .refl _
    refine (hround at_ t).bind H.toStops (fun p t => ?_) fun t => ?_
    · have hnext := fun t => ((ih (at_ + p.len) t).bind H.toStops
        (fun q t => Result.Upto.refl (.matched (p.after q) t)) fun t => .refl (.rejected t))
      split
      · exact hnext 0
      · exact H.tick at_ t hnext
    · split
      · split
        · exact hn.giveUp at_ t
        · exact .refl _
      · split
        · exact (hleave at_ t).orElse H.toStops (hn.giveUp at_)
        · exact hn.giveUp at_ t

variable {go go' : Nat → Nat → Nat → Result}
  (hgo : ∀ id pos t, Result.Upto out (go id pos t) (go' id pos t))
include hgo

theorem transitions (pos t : Nat) :
    Result.Upto out (Attempt.transitions go node pos t) (Attempt.transitions go' node' pos t) := by
  unfold Attempt.transitions
  rw [hn.step, hn.transitions]
  split
  · exact .refl _
  · exact (H.firstOf (fun id => hgo id pos) _ t).mapFailure H.toStops _

theorem advance {id : Nat} (pos n t : Nat) :
    Result.Upto out (a.advance go id node pos n t) (b.advance go' id node' pos n t) :=
  ((H.transitions hn hgo (pos + n) t).bind H.toStops (fun _ _ => .refl _)
    (hn.giveUp (pos + n))).after _ _

end

theorem perform {go go' : Nat → Nat → Nat → Result}
    (hgo : ∀ id pos t, Result.Upto out (go id pos t) (go' id pos t)) (id pos t : Nat) :
    Result.Upto out (a.perform go id pos t) (b.perform go' id pos t) := by
  cases hn : a.graph.node? id with
  | none => rw [perform_of_none hn, perform_of_none (H.missing id hn)]; exact .refl _
  | some node =>
    obtain ⟨node', hn', same⟩ := H.node id node hn
    cases hstep : node.step with
    | state name =>
      rw [perform_state hn hstep, perform_state hn' (same.step ▸ hstep)]
      exact H.transitions same hgo pos t
    | applyTag tag =>
      rw [perform_applyTag hn hstep, perform_applyTag hn' (same.step ▸ hstep), same.step]
      exact (H.transitions same hgo pos t).bind H.toStops (fun _ _ => .refl _)
        fun t => (same.giveUp pos t).mapFailure H.toStops _
    | subState target r =>
      cases he : a.graph.entryOf target with
      | none =>
        rw [perform_undefined hn hstep he,
          perform_undefined hn' (same.step ▸ hstep) (H.entryOf ▸ he), H.states]
        exact .refl _
      | some entry =>
        rw [perform_subState hn hstep he, perform_subState hn' (same.step ▸ hstep) (H.entryOf ▸ he)]
        refine H.loop same (fun at_ t => hgo entry at_ t) (H.transitions same hgo) ?_ 0 pos t
        have := H.patience
        unfold rounds; split <;> omega
    | _ =>
      have hm : node.step.isMatcher = true := by rw [hstep]; rfl
      have htaken : b.taken pos node.step = a.taken pos node.step := by
        simp only [taken.eq_def, H.source]
      rw [perform_matcher hn hm, perform_matcher hn' (same.step ▸ hm), same.step, htaken]
      cases a.taken pos node.step with
      | none => exact .refl _
      | some n => exact H.advance same hgo pos n t

/-- **Attempts that make the same of every step make the same of every visit.** A visit that may be
    nested deeper does so too, if the failure of the other one is let go. -/
theorem visit : ∀ {levels levels' : Nat}, levels ≤ levels' →
    (∀ pos, out (.failed ⟨.depth a.limits.depth.toNat, [], [], pos⟩)) ∨
      levels = levels' ∧ a.limits.depth = b.limits.depth →
    ∀ id pos t, Result.Upto out (a.visit levels id pos t) (b.visit levels' id pos t)
  | 0, levels', _, hd, id, pos, t => by
    rcases hd with hd | ⟨rfl, hd⟩
    · cases levels' <;> exact (H.tick pos t fun _ => Or.inl (hd pos)).visited id pos
    · rw [Attempt.visit, Attempt.visit, ← hd]
      exact (H.tick pos t fun _ => .refl _).visited id pos
  | levels + 1, levels', hle, hd, id, pos, t => by
    obtain ⟨levels', rfl⟩ : ∃ k, levels' = k + 1 := ⟨levels' - 1, by omega⟩
    have ih := visit (Nat.le_of_succ_le_succ hle) (hd.imp (fun h => h) fun h => ⟨by omega, h.2⟩)
    exact (H.tick pos t fun t => H.perform ih id pos t).visited id pos

end Refines

/-- Being cut off may be let go. -/
theorem stops_unfinished : Verdict.Stops (· = .unfinished) where
  matched _ h := by cases h
  rejected h := by cases h
  unfinished := rfl
  record _ _ h := by cases h

/-- More patience makes no difference where less was enough. -/
theorem refines_of_patience_le {a : Attempt} {n : Nat} (h : a.patience ≤ n) :
    Refines (· = .unfinished) a { a with patience := n } where
  toStops := stops_unfinished
  source := rfl
  patience := h
  entryOf := rfl
  states := rfl
  missing _ h := h
  node _ node h := ⟨node, h, rfl, rfl, fun _ _ => .refl _⟩
  tick pos t next next' h := by
    unfold Attempt.tick; split
    · exact .refl _
    · exact h _

/-- A visit that is not cut off is the same with more patience. -/
theorem visit_of_patience_le {a : Attempt} {n : Nat} (h : a.patience ≤ n) (levels id pos ticks : Nat) :
    Result.Upto (· = .unfinished) (a.visit levels id pos ticks)
      ({ a with patience := n }.visit levels id pos ticks) :=
  (refines_of_patience_le h).visit (Nat.le_refl _) (Or.inr ⟨rfl, rfl⟩) id pos ticks

end Attempt

end GraphLexer
