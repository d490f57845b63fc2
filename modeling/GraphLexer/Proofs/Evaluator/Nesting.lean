/-
The tags of an answer form a forest: they are nested and ordered, and lie within what was matched.
-/
import GraphLexer.Graph.Lower
import GraphLexer.Proofs.Evaluator.Accounting
import GraphLexer.Proofs.Tag.Forest
import GraphLexer.Proofs.Tag.Maps

namespace GraphLexer

/-- A match whose tags form a forest over what was taken. -/
def Attempt.Nested (a : Attempt) (pos : Nat) : Verdict → Prop
  | .matched p => p.len ≤ a.left pos ∧ Tag.Forest pos (pos + p.len) p.tags
  | _ => True

theorem Attempt.nested_invariant (a : Attempt) : Invariant a (fun _ => True) a.Nested where
  transition _ _ _ := trivial
  entry _ _ _ _ := trivial
  rejected := trivial
  unfinished := trivial
  empty := ⟨Nat.zero_le _, trivial⟩
  raised _ _ := trivial
  record _ _ _ := trivial
  tagged _ _ _ h := ⟨h.1, Tag.forest_singleton h.2⟩
  len_le h := h.1
  later _ _ := trivial
  advance := by
    rintro pos n p hle ⟨h1, h2⟩
    refine ⟨by simp only [left] at *; omega, h2.weaken (Nat.le_add_right _ _) ?_⟩
    simp only; omega
  after := by
    rintro pos p q ⟨h1, h2⟩ ⟨h3, h4⟩
    refine ⟨by simp only [left, Partial.after] at *; omega, ?_⟩
    rw [Partial.after, ← Nat.add_assoc]
    exact Tag.forest_append (Nat.le_add_right _ _) (Nat.le_add_right _ _) h4 h2

namespace Evaluator

variable {e : Evaluator} {input : String} {offset : Nat}

theorem forest_of_attempt {n len : Nat} {tags : List (Tag String)}
    (h : e.attemptWithin n (.ofText input) offset = some (.matched len tags)) :
    Tag.Forest 0 len tags := by
  obtain ⟨entry, p, hv, rfl, rfl⟩ := visit_of_matched h
  have hf : (e.setting n (.ofText input)).Nested offset
      ((e.setting n (.ofText input)).visit e.limits.depth.toNat entry offset 0).verdict :=
    (Attempt.nested_invariant _).visit rfl trivial
  rw [hv] at hf
  have := Tag.forest_maps (f := e.graph.tags.name) (g := (· - offset)) (fun i l hi => by omega)
    (Nat.le_refl offset) hf.2
  simpa using this

/-- The tags of an attempt, moved to its offset. -/
theorem forest_shift {len : Nat} {tags : List (Tag String)} (h : Tag.Forest 0 len tags) :
    Tag.Forest offset (offset + len) (tags.map (Tag.shift offset)) := by
  have := Tag.forest_maps (f := id) (g := (· + offset)) (fun i l _ => by omega) (Nat.le_refl 0) h
  rwa [Nat.zero_add, Nat.add_comm len, ← Tag.map_shift] at this

theorem Reaches.forest {tags : List (Tag String)} (h : e.Reaches (.ofText input) offset tags) :
    Tag.Forest 0 offset tags := by
  induction h with
  | start => trivial
  | @more offset len tags found _ _ ha _ ih =>
    rw [attempt_eq] at ha
    exact Tag.forest_append (Nat.zero_le _) (Nat.le_add_right _ _)
      (forest_shift (forest_of_attempt ha)) ih

theorem forest_of_evaluate {len : Nat} {tags : List (Tag String)}
    (h : e.evaluate input = some (.matched len tags)) :
    len ≤ Text.length input ∧ Tag.Forest 0 len tags := by
  rw [evaluate, evaluateTraced, attempt_eq] at h
  exact ⟨len_le_of_attempt h, forest_of_attempt h⟩

theorem forest_of_evaluateAll {t : Tokenized} (h : e.evaluateAll input = some t) :
    t.matchedLen ≤ Text.length input ∧ Tag.Forest 0 t.matchedLen t.tags := by
  obtain ⟨offset, tags, hr, he⟩ := ends_of_evaluateAll h
  cases he with
  | empty _ ha =>
    rw [attempt_eq] at ha
    exact ⟨hr.le_length, Tag.forest_append (Nat.zero_le _) (Nat.le_refl _)
      (forest_shift (forest_of_attempt ha)) hr.forest⟩
  | _ => exact ⟨hr.le_length, hr.forest⟩

/-- **Tags are nested and ordered**, those of a single attempt within its match, those of all attempts
    together within everything that was matched. -/
theorem tags_nested (e : Evaluator) (input : String) :
    (∀ len tags, e.evaluate input = some (.matched len tags) →
      len ≤ Text.length input ∧ Tag.Forest 0 len tags) ∧
    ∀ t, e.evaluateAll input = some t →
      t.matchedLen ≤ Text.length input ∧ Tag.Forest 0 t.matchedLen t.tags :=
  ⟨fun _ _ => forest_of_evaluate, fun _ => forest_of_evaluateAll⟩

/-- No position in an answer, the stops of its tags included, is beyond the end of the input. -/
theorem stop_le_length (e : Evaluator) (input : String) :
    (∀ len tags, e.evaluate input = some (.matched len tags) →
      ∀ t ∈ Tag.walk tags, t.stop ≤ Text.length input) ∧
    ∀ answer, e.evaluateAll input = some answer →
      ∀ t ∈ Tag.walk answer.tags, t.stop ≤ Text.length input := by
  refine ⟨fun len tags h t ht => ?_, fun answer h t ht => ?_⟩
  · obtain ⟨hle, hforest⟩ := forest_of_evaluate h
    exact Nat.le_trans (hforest.stop_le t ht).2 hle
  · obtain ⟨hle, hforest⟩ := forest_of_evaluateAll h
    exact Nat.le_trans (hforest.stop_le t ht).2 hle

/-- Letters in brackets, with a tag around each letter and each pair of brackets. -/
def brackets : Grammar where
  root := "S"
  states := [
    .plain (.state "S") [.plain (.applyTag "brackets") [.plain (.literal "(")
      [.plain (.subState "Letter" (.zeroOrMore true)) [.plain (.literal ")") []]]]],
    .plain (.state "Letter") [.plain (.applyTag "letter") [.plain (.unicode (some 97) (some 122)) []]]]
  named := by simp [Tree.plain, Tree.stateName?]
  distinct := by simp [Tree.plain, Tree.stateNames, Tree.stateName?]

theorem brackets_nested : ∃ graph, Graph.ofGrammar brackets = .ok graph ∧
    (∃ tags, (ofGraph graph).evaluate "(ab)(c)" = some (.matched 4 tags) ∧ Tag.Forest 0 4 tags) ∧
    ∃ t, (ofGraph graph).evaluateAll "(ab)(c)" = some t ∧ Tag.Forest 0 t.matchedLen t.tags := by
  refine ⟨_, rfl, ⟨?tags, ?one, ((tags_nested _ _).1 _ _ ?one).2⟩,
    ?t, ?all, ((tags_nested _ _).2 _ ?all).2⟩
  case one => rfl
  case all => rfl

end Evaluator

end GraphLexer
