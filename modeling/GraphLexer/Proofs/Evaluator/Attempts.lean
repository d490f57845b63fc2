/-
The attempts that are made on an input, one after the other.

`Reaches` says that an offset is reached by attempts that all took something, with the tags they left,
and `Ends` how the attempts end at an offset. `evaluateAll` comes to an answer exactly as these say
(`attempts_spec`), and its bound on the number of attempts plays no part
(`evaluateAll_eq_of_reaches`).
-/
import GraphLexer.Evaluator

namespace GraphLexer.Evaluator

/-- Attempts that took something each lead from the start to an offset, leaving some tags. -/
inductive Reaches (e : Evaluator) (source : Source) : Nat → List (Tag String) → Prop
  | start : Reaches e source 0 []
  | more {offset len : Nat} {tags found : List (Tag String)} : Reaches e source offset tags →
      offset < source.length → (e.attempt source offset).1 = some (.matched len found) → 0 < len →
      Reaches e source (offset + len) (tags ++ found.map (Tag.shift offset))

/-- How the attempts end at an offset, with the tags that were left before. -/
inductive Ends (e : Evaluator) (source : Source) (offset : Nat) (tags : List (Tag String)) :
    Tokenized → Prop
  /-- nothing is left -/
  | complete : source.length ≤ offset → Ends e source offset tags (settle source offset tags none)
  /-- the last attempt matched nothing -/
  | noMatch : offset < source.length → (e.attempt source offset).1 = some .noMatch →
      Ends e source offset tags (settle source offset tags none)
  | failed {error : EvalError} : offset < source.length →
      (e.attempt source offset).1 = some (.failed error) →
      Ends e source offset tags (settle source offset tags (some error))
  /-- the last attempt took nothing, and left its tags -/
  | empty {found : List (Tag String)} : offset < source.length →
      (e.attempt source offset).1 = some (.matched 0 found) →
      Ends e source offset tags (settle source offset (tags ++ found.map (Tag.shift offset)) none)

variable {e : Evaluator} {source : Source} {offset : Nat} {tags : List (Tag String)}

/-- Attempts from a reached offset on go on to one where they end, or where an attempt has no answer. -/
theorem attempts_spec {fuel : Nat} (hr : e.Reaches source offset tags)
    (hf : source.length - offset ≤ fuel) : ∃ offset' tags', e.Reaches source offset' tags' ∧
      match e.attempts source fuel offset tags with
      | some t => e.Ends source offset' tags' t
      | none => offset' < source.length ∧ (e.attempt source offset').1 = none := by
  induction fuel generalizing offset tags with
  | zero => exact ⟨offset, tags, hr, .complete (by omega)⟩
  | succ fuel ih =>
    rw [attempts]
    by_cases hlt : offset < source.length
    · rw [if_pos hlt]
      cases ha : (e.attempt source offset).1 with
      | none => exact ⟨offset, tags, hr, hlt, ha⟩
      | some o =>
        cases o with
        | noMatch => exact ⟨offset, tags, hr, .noMatch hlt ha⟩
        | failed error => exact ⟨offset, tags, hr, .failed hlt ha⟩
        | matched len found =>
          by_cases hlen : len = 0
          · subst hlen; exact ⟨offset, tags, hr, .empty hlt ha⟩
          · simp only [if_neg hlen]
            exact ih (hr.more hlt ha (by omega)) (by omega)
    · rw [if_neg hlt]; exact ⟨offset, tags, hr, .complete (by omega)⟩

theorem attempts_of_length_le (h : source.length ≤ offset) (fuel : Nat) :
    e.attempts source fuel offset tags = some (settle source offset tags none) := by
  cases fuel with
  | zero => rfl
  | succ fuel => rw [attempts, if_neg (by omega)]

/-- The number of attempts that are allowed plays no part when it covers what is left. -/
theorem attempts_fuel {fuel fuel' : Nat} (h : source.length - offset ≤ fuel)
    (h' : source.length - offset ≤ fuel') :
    e.attempts source fuel offset tags = e.attempts source fuel' offset tags := by
  induction fuel generalizing fuel' offset tags with
  | zero => rw [attempts_of_length_le (by omega), attempts_of_length_le (by omega)]
  | succ fuel ih =>
    cases fuel' with
    | zero => rw [attempts_of_length_le (by omega), attempts_of_length_le (by omega)]
    | succ fuel' =>
      rw [attempts, attempts]
      by_cases hlt : offset < source.length
      · rw [if_pos hlt, if_pos hlt]
        rcases (e.attempt source offset).1 with _ | ⟨len, found⟩ | _ | _
        · rfl
        · by_cases hlen : len = 0
          · simp only [if_pos hlen]
          · simp only [if_neg hlen]
            exact ih (by omega) (by omega)
        · rfl
        · rfl
      · rw [if_neg hlt, if_neg hlt]

theorem attempts_again : e.attempts source (source.length - offset) offset tags =
    e.attempts source (source.length - offset + 1) offset tags :=
  attempts_fuel (Nat.le_refl _) (Nat.le_succ _)

theorem evaluateAll_eq_of_reaches {input : String}
    (h : e.Reaches (Source.ofText input) offset tags) : e.evaluateAll input =
      e.attempts (Source.ofText input) ((Source.ofText input).length - offset) offset tags := by
  induction h with
  | start => rfl
  | @more offset len tags found hr hlt ha hlen ih =>
    rw [ih, attempts_again, attempts, if_pos hlt, ha]
    simp only [if_neg (Nat.pos_iff_ne_zero.1 hlen)]
    exact attempts_fuel (by omega) (Nat.le_refl _)

theorem evaluateAll_eq_none {input : String} : e.evaluateAll input = none ↔
    ∃ offset tags, e.Reaches (Source.ofText input) offset tags ∧
      offset < (Source.ofText input).length ∧ (e.attempt (Source.ofText input) offset).1 = none := by
  constructor
  · intro h
    obtain ⟨offset, tags, hr, hs⟩ := attempts_spec (.start : e.Reaches (Source.ofText input) 0 [])
      (Nat.sub_le _ 0)
    rw [show e.attempts (Source.ofText input) _ 0 [] = none from h] at hs
    exact ⟨offset, tags, hr, hs⟩
  · rintro ⟨offset, tags, hr, hlt, ha⟩
    rw [evaluateAll_eq_of_reaches hr, attempts_again, attempts, if_pos hlt, ha]

/-- An answer ends the attempts at a reached offset. -/
theorem ends_of_evaluateAll {input : String} {t : Tokenized} (h : e.evaluateAll input = some t) :
    ∃ offset tags, e.Reaches (Source.ofText input) offset tags ∧
      e.Ends (Source.ofText input) offset tags t := by
  obtain ⟨offset, tags, hr, hs⟩ := attempts_spec (.start : e.Reaches (Source.ofText input) 0 [])
    (Nat.sub_le _ 0)
  rw [show e.attempts (Source.ofText input) _ 0 [] = some t from h] at hs
  exact ⟨offset, tags, hr, hs⟩

end GraphLexer.Evaluator
