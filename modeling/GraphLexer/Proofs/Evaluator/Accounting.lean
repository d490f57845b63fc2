/-
Every unit of an input is accounted for by the attempts on it: it is matched, or it is part of the
suffix that is left. A failure reports what the last attempt had taken of that suffix.
-/
import GraphLexer.Graph.Lower
import GraphLexer.Proofs.Attempt.Bounds
import GraphLexer.Proofs.Evaluator.Attempts
import GraphLexer.Proofs.Evaluator.Within

namespace GraphLexer

/-- What an answer says about an input, unit by unit. -/
structure Tokenized.AccountsFor (t : Tokenized) (input : String) : Prop where
  /-- matched units and left units are all units -/
  units : t.matchedLen + (t.unmatchedSuffix.map Text.length).getD 0 = Text.length input
  /-- what is left is spelt by the units from `matchedLen` on, a half of a pair as U+FFFD -/
  suffix : t.unmatchedSuffix = if t.matchedLen < Text.length input then
    some (Text.ofUnits ((Text.units input).drop t.matchedLen)) else none
  /-- after a failure something is left -/
  suffix_of_error : t.lastError.isSome → t.unmatchedSuffix.isSome
  exitCode : t.exitCode = 0 ↔ t.isComplete = true
  /-- a failure reports units from `matchedLen` up to a place within the input -/
  committed : ∀ error, t.lastError = some error → ∃ stop, t.matchedLen ≤ stop ∧
    stop ≤ Text.length input ∧ error.committedInput =
      Text.ofUnits (((Text.units input).drop t.matchedLen).take (stop - t.matchedLen))

namespace Evaluator

variable {e : Evaluator} {input : String} {offset : Nat}

theorem len_le_of_attempt {n len : Nat} {tags : List (Tag String)}
    (h : e.attemptWithin n (.ofText input) offset = some (.matched len tags)) :
    len ≤ Text.length input - offset := by
  obtain ⟨entry, p, hv, rfl, -⟩ := visit_of_matched h
  have := Attempt.len_le_of_visit rfl hv
  rwa [Attempt.left, setting, Source.length_ofText, ← Text.length_eq] at this

/-- An attempt fails at a place between its start and the end of the input. -/
theorem stop_of_failed {n entry : Nat} {f : Failure}
    (h : ((e.setting n (.ofText input)).visit e.limits.depth.toNat entry offset 0).verdict = .failed f) :
    offset ≤ f.stop ∧ f.stop - offset ≤ Text.length input - offset := by
  have hbounded := Attempt.visit_bounded (a := e.setting n (.ofText input)) rfl
    e.limits.depth.toNat entry offset 0
  rwa [h, Attempt.Bounded, Attempt.left, setting, Source.length_ofText, ← Text.length_eq] at hbounded

theorem committed_of_attempt {n : Nat} {error : EvalError}
    (h : e.attemptWithin n (.ofText input) offset = some (.failed error)) : ∃ stop, offset ≤ stop ∧
      stop - offset ≤ Text.length input - offset ∧ error.committedInput =
        Text.ofUnits (((Text.units input).drop offset).take (stop - offset)) := by
  rcases visit_of_failed h with ⟨-, rfl⟩ | ⟨entry, f, -, hv, rfl⟩
  · exact ⟨offset, Nat.le_refl _, by simp, by simp [EvalError.ofCause, Text.ofUnits, Text.decode]⟩
  · obtain ⟨hstart, hleft⟩ := stop_of_failed hv
    exact ⟨f.stop, hstart, hleft, Source.slice_ofText input offset f.stop⟩

/-- Attempts do not go beyond the input. -/
theorem Reaches.le_length {tags : List (Tag String)} (h : e.Reaches (.ofText input) offset tags) :
    offset ≤ Text.length input := by
  cases h with
  | start => exact Nat.zero_le _
  | more _ hlt ha _ =>
    rw [attempt_eq] at ha
    have := len_le_of_attempt ha
    rw [Source.length_ofText, ← Text.length_eq] at hlt
    omega

theorem unmatchedSuffix_settle {tags : List (Tag String)} {error : Option EvalError} :
    (settle (.ofText input) offset tags error).unmatchedSuffix =
      if offset < Text.length input then some (Text.ofUnits ((Text.units input).drop offset))
      else none := by
  have hlen := Text.length_eq input
  simp only [settle, Source.length_ofText, ← hlen]
  split
  · rw [Source.slice_ofText, List.take_of_length_le (by rw [List.length_drop]; omega)]
  · rfl

theorem unmatchedSuffix_of_evaluateAll {t : Tokenized} (h : e.evaluateAll input = some t) :
    t.unmatchedSuffix = if t.matchedLen < Text.length input
      then some (Text.ofUnits ((Text.units input).drop t.matchedLen)) else none := by
  obtain ⟨offset, tags, -, hends⟩ := ends_of_evaluateAll h
  cases hends <;> exact unmatchedSuffix_settle

theorem matchedLen_le_of_evaluateAll {t : Tokenized} (h : e.evaluateAll input = some t) :
    t.matchedLen ≤ Text.length input := by
  obtain ⟨offset, tags, hr, hends⟩ := ends_of_evaluateAll h
  cases hends <;> exact hr.le_length

theorem isComplete_iff {t : Tokenized} (h : e.evaluateAll input = some t) :
    t.isComplete = true ↔ t.matchedLen = Text.length input := by
  have hle := matchedLen_le_of_evaluateAll h
  rw [Tokenized.isComplete, unmatchedSuffix_of_evaluateAll h]
  by_cases hlt : t.matchedLen < Text.length input
  · rw [if_pos hlt]
    exact ⟨nofun, fun heq => absurd heq (Nat.ne_of_lt hlt)⟩
  · rw [if_neg hlt]
    exact ⟨fun _ => Nat.le_antisymm hle (Nat.le_of_not_lt hlt), fun _ => rfl⟩

theorem length_of_unmatchedSuffix {t : Tokenized} {remainder : String} (h : e.evaluateAll input = some t)
    (hr : t.unmatchedSuffix = some remainder) : t.matchedLen < Text.length input ∧
      Text.length remainder = Text.length input - t.matchedLen := by
  rw [unmatchedSuffix_of_evaluateAll h] at hr
  split at hr
  · next hlt =>
    cases hr
    rw [Text.length_ofUnits, List.length_drop, ← Text.length_eq]
    exact ⟨hlt, rfl⟩
  · cases hr

/-- An answer that ends at a reached offset accounts for the input. -/
theorem accountsFor_settle {tags : List (Tag String)} {error : Option EvalError}
    (hle : offset ≤ Text.length input) (hlt : error.isSome → offset < Text.length input)
    (hc : ∀ err, error = some err → ∃ stop, offset ≤ stop ∧
      stop - offset ≤ Text.length input - offset ∧ err.committedInput =
        Text.ofUnits (((Text.units input).drop offset).take (stop - offset))) :
    (settle (.ofText input) offset tags error).AccountsFor input where
  units := by
    rw [unmatchedSuffix_settle]
    simp only [settle]
    split
    · rw [Option.map_some, Option.getD_some, Text.length_ofUnits, List.length_drop, ← Text.length_eq]
      omega
    · rw [Option.map_none, Option.getD_none]; omega
  suffix := unmatchedSuffix_settle
  suffix_of_error h := by rw [unmatchedSuffix_settle, if_pos (hlt h)]; rfl
  exitCode := by
    rw [Tokenized.exitCode, Tokenized.isComplete, unmatchedSuffix_settle]
    cases error with
    | none => by_cases h : offset < Text.length input <;> simp [settle, h]
    | some err => simp [settle, hlt rfl]
  committed err h := by
    obtain ⟨stop, h1, h2, h3⟩ := hc err h
    exact ⟨stop, h1, by omega, h3⟩

/-- **Every unit is accounted for.** The answer to an input is reached by attempts that each took
    something, up to `matchedLen`; the last attempt, made there, adds nothing to it. -/
theorem evaluateAll_accounts {t : Tokenized} (h : e.evaluateAll input = some t) :
    t.AccountsFor input ∧ ∃ tags, e.Reaches (.ofText input) t.matchedLen tags ∧
      e.Ends (.ofText input) t.matchedLen tags t := by
  obtain ⟨offset, tags, hr, he⟩ := ends_of_evaluateAll h
  have hle := hr.le_length
  have hlen : (Source.ofText input).length = Text.length input := by
    rw [Source.length_ofText, Text.length_eq]
  cases he with
  | complete hge => exact ⟨accountsFor_settle hle (by simp) (by simp), tags, hr, .complete hge⟩
  | noMatch hlt ha => exact ⟨accountsFor_settle hle (by simp) (by simp), tags, hr, .noMatch hlt ha⟩
  | empty hlt ha => exact ⟨accountsFor_settle hle (by simp) (by simp), tags, hr, .empty hlt ha⟩
  | @failed error hlt ha =>
    refine ⟨accountsFor_settle hle (fun _ => hlen ▸ hlt) fun err herr => ?_, tags, hr, .failed hlt ha⟩
    cases herr
    rw [attempt_eq] at ha
    exact committed_of_attempt ha

/-- Matches "a" and the first half of a pair. -/
def halving : Grammar where
  root := "S"
  states := [.plain (.state "S")
    [.plain (.literal "a") [.plain (.unicode (some 0xD800) (some 0xDBFF)) []]]]
  named := by simp [Tree.plain, Tree.stateName?]
  distinct := by simp [Tree.plain, Tree.stateNames, Tree.stateName?]

theorem halving_accounts : ∃ graph, Graph.ofGrammar halving = .ok graph ∧
    ∃ t, (ofGraph graph).evaluateAll "a😀" = some t ∧ t.matchedLen = 2 ∧
      t.AccountsFor "a😀" := by
  refine ⟨_, rfl, ?t, ?all, ?len, (evaluateAll_accounts ?all).1⟩
  case all => rfl
  case len => rfl

end Evaluator

end GraphLexer
