/-
Evaluation does not depend on what was taken before.

An attempt that starts after `p` in the text `p ++ r` has the outcome of an attempt on `r` alone, since
positions are counted from its start. So what is left of an input at a reached offset is evaluated like
an input of its own, and only moved to its place (`evaluate_suffix`).
-/
import GraphLexer.Graph.Lower
import GraphLexer.Proofs.Attempt.Moved
import GraphLexer.Proofs.Evaluator.Termination

namespace GraphLexer

/-- An answer to what is left of an input, as an answer to the whole input. -/
def Tokenized.after (offset : Nat) (tags : List (Tag String)) (t : Tokenized) : Tokenized :=
  ⟨offset + t.matchedLen, tags ++ t.tags.map (Tag.shift offset), t.unmatchedSuffix, t.lastError⟩

namespace Evaluator

variable (e : Evaluator) (p r : String)

theorem outcome_move (g : Graph) (start : Nat) (v : Verdict) :
    outcome g (.ofText (p ++ r)) (Text.length p + start) (v.move (Text.length p)) =
      outcome g (.ofText r) start v := by
  cases v with
  | matched m =>
    have hsub : (· - (Text.length p + start)) ∘ (Text.length p + ·) = (· - start) := by
      funext i; simp only [Function.comp]; omega
    simp only [Verdict.move, outcome, Partial.move, Tag.maps_maps, hsub]; rfl
  | failed f => simp only [Verdict.move, outcome, report, Source.slice_append]
  | rejected | unfinished => rfl

theorem attemptWithin_append (n start : Nat) :
    e.attemptWithin n (.ofText (p ++ r)) (Text.length p + start) =
      e.attemptWithin n (.ofText r) start := by
  unfold attemptWithin
  cases e.graph.entry e.entry with
  | none => rfl
  | some entry =>
    have hmoved := (Attempt.follows_append p r e.graph e.limits n).visit e.limits.depth.toNat entry
      start 0
    simp only [setting, hmoved.verdict, outcome_move]

theorem attempt_append (start : Nat) :
    (e.attempt (.ofText (p ++ r)) (Text.length p + start)).1 = (e.attempt (.ofText r) start).1 := by
  ext o
  simp only [attempt_eq_some, attemptWithin_append]

theorem settle_append (offset : Nat) (tags found : List (Tag String)) (error : Option EvalError) :
    settle (.ofText (p ++ r)) (Text.length p + offset) (tags ++ found.map (Tag.shift (Text.length p)))
        error = (settle (.ofText r) offset found error).after (Text.length p) tags := by
  simp only [settle, Tokenized.after, Source.length_append, Source.slice_append,
    Nat.add_lt_add_iff_left]

/-- The attempts after `p` are those on what follows it, by induction on the number of attempts. -/
theorem attempts_append (tags : List (Tag String)) : ∀ fuel offset found,
    e.attempts (.ofText (p ++ r)) fuel (Text.length p + offset)
        (tags ++ found.map (Tag.shift (Text.length p))) =
      (e.attempts (.ofText r) fuel offset found).map (Tokenized.after (Text.length p) tags)
  | 0, offset, found => congrArg some (settle_append p r offset tags found none)
  | fuel + 1, offset, found => by
    simp only [attempts, Source.length_append, Nat.add_lt_add_iff_left, attempt_append]
    split
    · rcases (e.attempt (.ofText r) offset).1 with _ | ⟨len, new⟩ | _ | error
      · rfl
      · have htags : tags ++ found.map (Tag.shift (Text.length p)) ++
            new.map (Tag.shift (Text.length p + offset)) =
            tags ++ (found ++ new.map (Tag.shift offset)).map (Tag.shift (Text.length p)) := by
          simp only [List.append_assoc, List.map_append, List.map_map, Function.comp_def,
            Tag.shift_shift]
        simp only [htags, Nat.add_assoc, attempts_append tags fuel]
        split
        · rw [settle_append]; rfl
        · rfl
      · exact congrArg some (settle_append p r offset tags found none)
      · exact congrArg some (settle_append p r offset tags found (some error))
    · exact congrArg some (settle_append p r offset tags found none)

/-- **Evaluation does not depend on what was taken before.** An attempt after `p` is an evaluation of
    what follows; and where attempts reach the end of `p`, the answer is the one to what follows, after
    the tags that were left so far. -/
theorem evaluate_suffix :
    (e.attempt (.ofText (p ++ r)) (Text.length p)).1 = e.evaluate r ∧
      ∀ tags, e.Reaches (.ofText (p ++ r)) (Text.length p) tags →
        e.evaluateAll (p ++ r) = (e.evaluateAll r).map (Tokenized.after (Text.length p) tags) := by
  refine ⟨e.attempt_append p r 0, fun tags h => ?_⟩
  have hall := e.attempts_append p r tags (Source.ofText r).length 0 []
  rw [List.map_nil, List.append_nil, Nat.add_zero] at hall
  rw [evaluateAll_eq_of_reaches h, Source.length_append, Nat.add_sub_cancel_left, hall]
  rfl

/-- A face, or a call that has to end in a semicolon. -/
def faces : Grammar where
  root := "S"
  states := [.plain (.state "S") [
    .plain (.applyTag "face") [.plain (.literal "😀") []],
    .plain (.applyTag "call") [.committed (.literal "f") [.plain (.literal ";") []]]]]
  named := by simp [Tree.plain, Tree.stateName?]
  distinct := by simp [Tree.plain, Tree.stateNames, Tree.stateName?]

/-- The calls after a face, of which the second one fails, with and without the face. -/
theorem faces_suffix : ∃ graph t, Graph.ofGrammar faces = .ok graph ∧
    (ofGraph graph).Reaches (.ofText ("😀" ++ "f;fa")) (Text.length "😀") [⟨"face", 0, 2, []⟩] ∧
    (ofGraph graph).evaluateAll "f;fa" = some t ∧ t.lastError.isSome ∧
    (ofGraph graph).evaluateAll ("😀" ++ "f;fa") =
      some (t.after (Text.length "😀") [⟨"face", 0, 2, []⟩]) := by
  refine ⟨_, _, rfl, ?reach, rfl, rfl, (evaluate_suffix _ "😀" "f;fa").2 _ ?reach⟩
  have hface : [⟨"face", 0, 2, []⟩] = [] ++ [(⟨"face", 0, 2, []⟩ : Tag String)].map (Tag.shift 0) := by
    rw [Tag.map_shift]; rfl
  rw [hface]
  exact @Reaches.more _ _ 0 2 [] [⟨"face", 0, 2, []⟩] .start (by decide) rfl (by decide)

end Evaluator

end GraphLexer
