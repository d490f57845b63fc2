/-
Tags of an answer that leave out only what may be left out, and answers that no rejection ends.

Where the entry node covers, so do the tags of each attempt, and those of all attempts together, by
induction on the attempts. Where it accepts and consumes, an attempt that is the last one has used up the
input or failed.
-/
import GraphLexer.Proofs.Evaluator.Nesting
import GraphLexer.Proofs.Graph.Accepting
import GraphLexer.Proofs.Graph.Covering

namespace GraphLexer.Evaluator

variable {e : Evaluator} {input : String} {entry offset : Nat} {gaps : Gaps}

theorem attemptWithin_of_entry (he : e.graph.entry e.entry = some entry) (n : Nat) (source : Source)
    (start : Nat) : e.attemptWithin n source start = outcome e.graph source start
      ((e.setting n source).visit e.limits.depth.toNat entry start 0).verdict := by
  rw [attemptWithin, he]

section
variable (hg : e.graph.CompiledBy Regex.engine)
include hg

/-- The tags of a match of a node, counted from its start and then moved back, leave out what they did. -/
theorem covers_of_matched {n : Nat} {p : Partial} (hc : entry ∈ e.graph.covering gaps)
    (hv : ((e.setting n (.ofText input)).visit e.limits.depth.toNat entry offset 0).verdict =
      .matched p) : Tag.Covers (gaps.Allows id input) offset (offset + p.len)
        ((Tag.maps e.graph.tags.name (· - offset) p.tags).map (Tag.shift offset)) := by
  have hnested : (e.setting n (.ofText input)).Nested offset
      ((e.setting n (.ofText input)).visit e.limits.depth.toNat entry offset 0).verdict :=
    (Attempt.nested_invariant _).visit rfl trivial
  rw [hv] at hnested
  have hback : ∀ t ∈ p.tags, t.index - offset + offset = t.index := fun t ht =>
    Nat.sub_add_cancel (hnested.2.le_index t ht)
  rw [Tag.map_shift, Tag.maps_maps, Tag.maps_eq_map]
  exact (Attempt.covers_of_visit (a := e.setting n (.ofText input)) rfl hg _ entry hc hv).maps hback
    (Gaps.Allows.map (fun _ => rfl) hback)

variable (he : e.graph.entry e.entry = some entry)
include he

theorem covers_of_attempt (hc : entry ∈ e.graph.covering gaps) {len : Nat} {tags : List (Tag String)}
    (h : (e.attempt (.ofText input) offset).1 = some (.matched len tags)) :
    Tag.Covers (gaps.Allows id input) offset (offset + len) (tags.map (Tag.shift offset)) := by
  rw [attempt_eq, attemptWithin_of_entry he] at h
  generalize hv : Result.verdict _ = v at h
  cases v with
  | matched p => cases h; exact covers_of_matched hg hc hv
  | _ => cases h

theorem Reaches.covers (hc : entry ∈ e.graph.covering gaps) {tags : List (Tag String)}
    (h : e.Reaches (.ofText input) offset tags) :
    Tag.Covers (gaps.Allows id input) 0 offset tags := by
  induction h with
  | start => exact Tag.covers_nil
  | more _ _ ha _ ih => exact ih.append (fun _ _ _ => Gaps.Allows.mono) (covers_of_attempt hg he hc ha)

/-- The tags of an answer leave out only what they may. They form a forest, so each position that they
    do not leave out is in the span of exactly one of them. -/
theorem covers_of_evaluateAll (hc : entry ∈ e.graph.covering gaps) {t : Tokenized}
    (h : e.evaluateAll input = some t) : Tag.Forest 0 t.matchedLen t.tags ∧
      Tag.Covers (gaps.Allows id input) 0 t.matchedLen t.tags := by
  obtain ⟨offset, tags, hr, hends⟩ := ends_of_evaluateAll h
  cases hends with
  | empty _ ha =>
    have hcovers : Tag.Covers (gaps.Allows id input) 0 offset _ :=
      (hr.covers hg he hc).append (fun _ _ _ => Gaps.Allows.mono) (covers_of_attempt hg he hc ha)
    rw [attempt_eq] at ha
    exact ⟨Tag.forest_append (Nat.zero_le _) (Nat.le_refl _) (forest_shift (forest_of_attempt ha))
      hr.forest, hcovers⟩
  | _ => exact ⟨hr.forest, hr.covers hg he hc⟩

/-- An answer ends with the input or with a failure. -/
theorem complete_or_failed (haccepts : entry ∈ e.graph.accepting)
    (hconsumes : entry ∈ e.graph.consuming) {t : Tokenized} (h : e.evaluateAll input = some t) :
    t.isComplete = true ∨ t.lastError.isSome := by
  obtain ⟨offset, tags, -, hends⟩ := ends_of_evaluateAll h
  cases hends with
  | complete hle => exact Or.inl (by simp [Tokenized.isComplete, settle, Nat.not_lt_of_le hle])
  | failed _ _ => exact Or.inr rfl
  | noMatch hlt ha =>
    rw [attempt_eq, attemptWithin_of_entry he] at ha
    generalize hv : Result.verdict _ = v at ha
    cases v with
    | rejected =>
      exact absurd hv (Attempt.not_rejected_of_visit (a := e.setting _ (.ofText input)) hg rfl hlt
        e.limits.depth.toNat entry haccepts 0)
    | _ => cases ha
  | empty hlt ha =>
    rw [attempt_eq, attemptWithin_of_entry he] at ha
    generalize hv : Result.verdict _ = v at ha
    cases v with
    | matched p =>
      simp only [outcome, Option.some.injEq, Outcome.matched.injEq] at ha
      have htakes : (Verdict.matched p).Takes := hv ▸ Attempt.takes_of_visit
        (a := e.setting _ (.ofText input)) hg e.graph.consuming_consuming e.limits.depth.toNat
        entry hconsumes offset 0
      exact absurd ha.1 (Nat.ne_of_gt htakes)
    | _ => cases ha

end

end GraphLexer.Evaluator
