/-
Higher limits change nothing where lower ones were enough.

A limit is only compared with a count, and a failure because of one passes through everything that is
still open: no alternative and no further round comes after it. So limits take no part in what is
chosen, and an outcome other than such a failure stays the same under higher ones.
-/
import GraphLexer.Proofs.Evaluator.Nesting
import GraphLexer.Proofs.Evaluator.Within

namespace GraphLexer

/-- Limits are compared one by one. -/
instance : LE Limits :=
  ⟨fun l l' => l.ticks ≤ l'.ticks ∧ l.depth ≤ l'.depth⟩

/-- An outcome that is not due to a limit. -/
def Outcome.Settled : Outcome → Prop
  | .failed error => error.kind ≠ .loopLimitExceeded
  | .matched _ _ | .noMatch => True

/-- An answer whose last attempt was not stopped by a limit. -/
def Tokenized.Settled (t : Tokenized) : Prop :=
  ∀ error, t.lastError = some error → error.kind ≠ .loopLimitExceeded

/-- A verdict that is due to a limit, or to the bound on rounds. -/
def Verdict.Limited : Verdict → Prop
  | .failed f => f.cause.kind = .loopLimitExceeded
  | .unfinished => True
  | .matched _ | .rejected => False

namespace Attempt

@[simp] theorem cause_record (step : Step) (f : Failure) : (record step f).cause = f.cause := by
  cases step <;> rfl

theorem stops_limited : Verdict.Stops Verdict.Limited where
  matched _ h := h
  rejected h := h
  unfinished := trivial
  record step f h := by simpa [Verdict.Limited] using h

theorem refines_of_limits_le {a : Attempt} {limits : Limits} {n : Nat} (h : a.limits ≤ limits)
    (hn : a.patience ≤ n) :
    Refines Verdict.Limited a { a with limits := limits, patience := n } where
  toStops := stops_limited
  source := rfl
  patience := hn
  entryOf := rfl
  states := rfl
  missing _ h := h
  node _ node h := ⟨node, h, rfl, rfl, fun _ _ => .refl _⟩
  tick pos t next next' hnext := by
    have hle : a.limits.ticks.toNat ≤ limits.ticks.toNat := h.1
    unfold Attempt.tick
    by_cases ht : a.limits.Exceeded t
    · rw [if_pos ht]; exact Or.inl rfl
    · have ht' : ¬ limits.Exceeded t := fun hexceeded => ht
        ⟨Nat.lt_of_le_of_lt (Nat.succ_le_succ hle) hexceeded.1, Nat.lt_of_le_of_lt hle hexceeded.2⟩
      rw [if_neg ht, if_neg ht']; exact hnext _

theorem visit_of_limits_le {a : Attempt} {limits : Limits} {n : Nat} (h : a.limits ≤ limits)
    (hn : a.patience ≤ n) (id pos ticks : Nat) :
    Result.Upto Verdict.Limited (a.visit a.limits.depth.toNat id pos ticks)
      ({ a with limits := limits, patience := n }.visit limits.depth.toNat id pos ticks) :=
  (refines_of_limits_le h hn).visit h.2 (Or.inl fun _ => rfl) id pos ticks

end Attempt

namespace Evaluator

theorem not_settled_of_limited {g : Graph} {source : Source} {start : Nat} {v : Verdict} {o : Outcome}
    (hv : v.Limited) (ho : outcome g source start v = some o) : ¬ o.Settled := by
  cases v with
  | failed f => cases ho; exact fun hs => hs hv
  | unfinished => cases ho
  | matched | rejected => exact hv.elim

variable {e : Evaluator} {limits : Limits} (h : e.limits ≤ limits)
include h

theorem patience_mono (source : Source) : patience e.limits source ≤ patience limits source :=
  Nat.mul_le_mul_left _ (Nat.add_le_add_right h.1 _)

theorem attempt_of_limits_le {source : Source} {start : Nat} {o : Outcome}
    (ho : (e.attempt source start).1 = some o) (hs : o.Settled) :
    ({ e with limits := limits }.attempt source start).1 = some o := by
  have hrefines : Refines Verdict.Limited e { e with limits := limits } source start :=
    ⟨rfl, rfl, fun _ => rfl, fun entry => Attempt.visit_of_limits_le
      (a := e.setting (patience e.limits source) source) h (patience_mono h source) entry start 0⟩
  rcases hrefines.attempt ho with ⟨v, hv, hov⟩ | h'
  · exact absurd hs (not_settled_of_limited hv hov)
  · exact h'

/-- Attempts one after the other, of which a limit does not stop the last one. -/
theorem attempts_of_limits_le {source : Source} {t : Tokenized} (hs : t.Settled) :
    ∀ {fuel offset : Nat} {tags : List (Tag String)}, e.attempts source fuel offset tags = some t →
      { e with limits := limits }.attempts source fuel offset tags = some t
  | 0, _, _, ht => ht
  | fuel + 1, offset, tags, ht => by
    rw [attempts] at ht ⊢
    by_cases hlt : offset < source.length
    · rw [if_pos hlt] at ht ⊢
      cases ha : (e.attempt source offset).1 with
      | none => rw [ha] at ht; cases ht
      | some o =>
        rw [ha] at ht
        have hsettled : o.Settled := by
          cases o with
          | failed error => cases ht; exact hs error rfl
          | matched | noMatch => trivial
        rw [attempt_of_limits_le h ha hsettled]
        cases o with
        | noMatch | failed => exact ht
        | matched len found =>
          dsimp only at ht ⊢
          by_cases hlen : len = 0
          · rwa [if_pos hlen] at ht ⊢
          · rw [if_neg hlen] at ht ⊢
            exact attempts_of_limits_le hs ht
    · rwa [if_neg hlt] at ht ⊢

/-- **Higher limits change nothing that was settled**, neither an outcome nor the answer to an input. -/
theorem settled_of_limits_le (input : String) :
    (∀ o, e.evaluate input = some o → o.Settled →
      { e with limits := limits }.evaluate input = some o) ∧
    ∀ t, e.evaluateAll input = some t → t.Settled →
      { e with limits := limits }.evaluateAll input = some t :=
  ⟨fun _ ho hs => attempt_of_limits_le h ho hs, fun _ ht hs => attempts_of_limits_le h hs ht⟩

omit h

theorem brackets_settled : ∃ graph, Graph.ofGrammar brackets = .ok graph ∧
    (∃ tags, (Evaluator.mk graph "S" ⟨7, 7⟩).evaluate "(ab)(c)x" = some (.matched 4 tags) ∧
      (Evaluator.mk graph "S" .default).evaluate "(ab)(c)x" = some (.matched 4 tags)) ∧
    ∃ t, (Evaluator.mk graph "S" ⟨7, 7⟩).evaluateAll "(ab)(c)x" = some t ∧ t.Settled ∧
      (Evaluator.mk graph "S" .default).evaluateAll "(ab)(c)x" = some t := by
  have hle : (⟨7, 7⟩ : Limits) ≤ .default := ⟨by decide, by decide⟩
  refine ⟨_, rfl, ⟨?tags, ?one, (settled_of_limits_le (e := ⟨_, "S", ⟨7, 7⟩⟩) hle _).1 _ ?one trivial⟩,
    ?t, ?all, ?settled, (settled_of_limits_le (e := ⟨_, "S", ⟨7, 7⟩⟩) hle _).2 _ ?all ?settled⟩
  case one => rfl
  case all => rfl
  case settled => exact fun _ he => by cases he

end Evaluator

end GraphLexer
