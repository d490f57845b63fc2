/-
A report on a failure points at the place where the attempt stopped.

An attempt that fails records the place up to which it had taken input (`stall?`). The failure that is
told holds only the input between the start of the attempt and that place, in which a half of a pair is
U+FFFD. It still has as many units as it spans (`length_slice`), so the report comes back to the same
place, and the spans that it marks begin and end at character boundaries of the input.
-/
import GraphLexer.Proofs.Evaluator.Accounting
import GraphLexer.Report

namespace GraphLexer

/-- A slice has as many units as it spans, also where it cuts a pair. -/
theorem Source.length_slice {text : String} (start : Nat) {stop : Nat} (h : stop ≤ Text.length text) :
    Text.length ((ofText text).slice start stop) = stop - start := by
  rw [Text.length_eq] at h
  rw [slice_ofText, Text.length_ofUnits, List.length_take, List.length_drop]
  omega

namespace Report

@[simp] theorem start_point (s : String) (start : Nat) : (point s start).start = start := by
  unfold point
  split <;> rfl

theorem isValid_stop_point {s : String} {start : Nat} (h : (String.Pos.Raw.mk start).IsValid s) :
    start ≤ (point s start).stop ∧ (String.Pos.Raw.mk (point s start).stop).IsValid s := by
  obtain ⟨front, back, happend, rfl⟩ := isValid_iff.1 h
  rw [point, happend, dropBytes_append]
  cases back with
  | nil => exact ⟨Nat.le_refl _, h⟩
  | cons c back =>
    refine ⟨Nat.le_add_right _ _, isValid_iff.2 ⟨front ++ [c], back, ?_, ?_⟩⟩
    · rw [happend, List.append_assoc, List.singleton_append]
    · rw [byteLength_append, byteLength_cons, byteLength_nil, Nat.add_zero]

/-- A report on an input, for a failure of the attempt from `offset` on, points at the place `stop`. -/
structure PointsAt (r : Report) (input : String) (offset stop : Nat) : Prop where
  primary : r.primary.start = Text.byteOffset input stop
  committed : r.committed =
    if Text.byteOffset input offset < Text.byteOffset input stop then
      some ⟨Text.byteOffset input offset, Text.byteOffset input stop⟩
    else none
  isValid_offset : (String.Pos.Raw.mk (Text.byteOffset input offset)).IsValid input
  isValid_stop : (String.Pos.Raw.mk (Text.byteOffset input stop)).IsValid input
  /-- what is marked can be cut out of the input -/
  isValid_span : ∀ span, span = r.primary ∨ r.committed = some span → span.start ≤ span.stop ∧
    (String.Pos.Raw.mk span.start).IsValid input ∧ (String.Pos.Raw.mk span.stop).IsValid input

theorem pointsAt_failure {palette : Palette} {input : String} {path : Option String} {offset stop : Nat}
    {error : EvalError} (h : offset + Text.length error.committedInput = stop) :
    (failure palette input path offset error).PointsAt input offset stop := by
  subst h
  have hstart := isValid_byteOffset input offset
  have hstall := isValid_byteOffset input (offset + Text.length error.committedInput)
  refine ⟨start_point _ _, rfl, hstart, hstall, ?_⟩
  rintro span (rfl | hcommitted)
  · obtain ⟨hle, hstop⟩ := isValid_stop_point hstall
    simp only [failure, start_point]
    exact ⟨hle, hstall, hstop⟩
  · simp only [failure] at hcommitted
    split at hcommitted
    · next hlt =>
      cases hcommitted
      exact ⟨Nat.le_of_lt hlt, hstart, hstall⟩
    · cases hcommitted

end Report

namespace Evaluator

/-- The place up to which an attempt from `start` on had taken input when it failed. An attempt whose
    entry is not defined fails at its start. -/
def stall? (e : Evaluator) (source : Source) (start : Nat) : Option Nat :=
  match e.graph.entry e.entry with
  | none => some start
  | some entry =>
    match ((e.setting (patience e.limits source) source).visit e.limits.depth.toNat entry start 0).verdict with
    | .failed f => some f.stop
    | _ => none

/-- An evaluation of an input ends with a failure of the attempt from an offset on. -/
inductive FailsFrom (e : Evaluator) (input : String) : Nat → EvalError → Prop
  | evaluate {error : EvalError} : e.evaluate input = some (.failed error) → FailsFrom e input 0 error
  | evaluateAll {t : Tokenized} {error : EvalError} : e.evaluateAll input = some t →
      t.lastError = some error → FailsFrom e input t.matchedLen error

variable {e : Evaluator} {input : String} {offset : Nat} {error : EvalError}

theorem FailsFrom.attempt (h : e.FailsFrom input offset error) :
    (e.attempt (.ofText input) offset).1 = some (.failed error) ∧ offset ≤ Text.length input := by
  cases h with
  | evaluate h => exact ⟨h, Nat.zero_le _⟩
  | evaluateAll h herror =>
    obtain ⟨offset, tags, hreaches, hends⟩ := ends_of_evaluateAll h
    cases hends with
    | failed _ hfailed =>
      cases herror
      exact ⟨hfailed, hreaches.le_length⟩
    | complete | noMatch | empty => cases herror

theorem FailsFrom.stall (h : e.FailsFrom input offset error) : ∃ stop,
    e.stall? (.ofText input) offset = some stop ∧ offset ≤ stop ∧ stop ≤ Text.length input ∧
      Text.length error.committedInput = stop - offset := by
  obtain ⟨hfailed, hle⟩ := h.attempt
  rw [attempt_eq] at hfailed
  rcases visit_of_failed hfailed with ⟨hentry, rfl⟩ | ⟨entry, f, hentry, hv, rfl⟩
  · refine ⟨offset, ?_, Nat.le_refl _, hle, (Nat.sub_self offset).symm⟩
    rw [stall?, hentry]
  · obtain ⟨hstart, hleft⟩ := stop_of_failed hv
    have hstop : f.stop ≤ Text.length input := by omega
    refine ⟨f.stop, ?_, hstart, hstop, Source.length_slice offset hstop⟩
    simp only [stall?, hentry, hv]

/-- **A report on a failure points at the place where the attempt stopped**, also where that place or the
    start of the attempt is within a pair, and all that it marks lies between character boundaries of the
    input. -/
theorem failure_pointsAt (h : e.FailsFrom input offset error) (palette : Palette)
    (path : Option String) : ∃ stop, e.stall? (.ofText input) offset = some stop ∧ offset ≤ stop ∧
      stop ≤ Text.length input ∧
      (Report.failure palette input path offset error).PointsAt input offset stop := by
  obtain ⟨stop, hstall, hle, hstop, hlen⟩ := h.stall
  exact ⟨stop, hstall, hle, hstop, Report.pointsAt_failure (by omega)⟩

/-- A letter and the first half of a pair, or the second half and what has to follow it. -/
def halves : Grammar where
  root := "S"
  states := [.plain (.state "S") [
    .plain (.literal "a") [.plain (.unicode (some 0xD800) (some 0xDBFF)) []],
    .plain (.unicode (some 0xDC00) (some 0xDFFF)) [.plain (.literal "b") [
      .committed (.unicode (some 0xD800) (some 0xDBFF)) [.plain (.literal "c") []]]]]]
  named := by simp [Tree.plain, Tree.stateName?]
  distinct := by simp [Tree.plain, Tree.stateNames, Tree.stateName?]

/-- The second attempt starts within the first pair and fails within the second one; both places go to
    the ends of the pairs. -/
theorem halves_pointsAt : ∃ graph error, Graph.ofGrammar halves = .ok graph ∧
    (ofGraph graph).FailsFrom "a😀b😀" 2 error ∧ error.committedInput = "\uFFFDb\uFFFD" ∧
    (Report.failure .off "a😀b😀" none 2 error).PointsAt "a😀b😀" 2 5 ∧
    Text.byteOffset "a😀b😀" 2 = 5 ∧ Text.byteOffset "a😀b😀" 5 = 10 := by
  have hrun : ∃ graph, Graph.ofGrammar halves = .ok graph ∧
      (ofGraph graph).stall? (.ofText "a😀b😀") 2 = some 5 ∧
      ∃ t, (ofGraph graph).evaluateAll "a😀b😀" = some t ∧ t.matchedLen = 2 ∧
        ∃ error, t.lastError = some error ∧ error.committedInput = "\uFFFDb\uFFFD" :=
    ⟨_, rfl, rfl, _, rfl, rfl, _, rfl, rfl⟩
  obtain ⟨graph, hg, hplace, t, ht, hlen, error, herror, hcommitted⟩ := hrun
  have hfails : (ofGraph graph).FailsFrom "a😀b😀" 2 error := hlen ▸ .evaluateAll ht herror
  obtain ⟨stop, hstall, -, -, hpoints⟩ := failure_pointsAt hfails .off none
  obtain rfl : stop = 5 := Option.some.inj (hstall.symm.trans hplace)
  exact ⟨graph, error, hg, hfails, hcommitted, hpoints, by decide, by decide⟩

end Evaluator

end GraphLexer
