/-
Matches and failures stay within the input: a match is no longer than what is left, and the position
that a failure reports lies between the position of the visit and the end. The cause of a failure is one
that is raised at a node.
-/
import GraphLexer.Proofs.Attempt.Invariant

namespace GraphLexer.Attempt

@[simp] theorem stop_record (step : Step) (f : Failure) : (record step f).stop = f.stop := by
  cases step <;> rfl

/-- A verdict at a position that stays within the input. -/
def Bounded (a : Attempt) (pos : Nat) : Verdict → Prop
  | .matched p => p.len ≤ a.left pos
  | .failed f => pos ≤ f.stop ∧ f.stop - pos ≤ a.left pos
  | .rejected => True
  | .unfinished => True

theorem bounded_invariant (a : Attempt) : Invariant a (fun _ => True) a.Bounded where
  transition _ _ _ := trivial
  entry _ _ _ _ := trivial
  rejected := trivial
  unfinished := trivial
  empty := Nat.zero_le _
  raised _ _ := ⟨Nat.le_refl _, by simp⟩
  record _ _ h := by simpa [Bounded] using h
  tagged _ _ _ h := h
  len_le h := h
  later := by intro pos n f hle h; simp only [Bounded, left] at *; omega
  advance := by intro pos n p hle h; simp only [Bounded, left] at *; omega
  after := by intro pos p q hp hq; simp only [Bounded, left, Partial.after] at *; omega

/-- A verdict with a cause that is raised somewhere, if it is a failure. -/
def Founded (a : Attempt) (pos : Nat) : Verdict → Prop
  | .matched p => p.len ≤ a.left pos
  | .failed f => ∃ id, a.Raises id f.cause
  | .rejected => True
  | .unfinished => True

theorem founded_invariant (a : Attempt) : Invariant a (fun _ => True) a.Founded where
  transition _ _ _ := trivial
  entry _ _ _ _ := trivial
  rejected := trivial
  unfinished := trivial
  empty := Nat.zero_le _
  raised _ hr := ⟨_, hr⟩
  record {id node pos f} _ _ hf := by cases node.step <;> exact hf
  tagged _ _ _ hp := hp
  len_le hp := hp
  later _ hf := hf
  advance := by intro pos n p hle hp; simp only [Founded, left] at *; omega
  after := by intro pos p q hp hq; simp only [Founded, left, Partial.after] at *; omega

variable {a : Attempt} {text : String} (hs : a.source = Source.ofText text)
include hs

theorem visit_bounded (levels id pos ticks : Nat) :
    a.Bounded pos (a.visit levels id pos ticks).verdict :=
  (bounded_invariant a).visit hs trivial

theorem len_le_of_visit {levels id pos ticks : Nat} {p : Partial}
    (h : (a.visit levels id pos ticks).verdict = .matched p) : p.len ≤ a.left pos := by
  have := visit_bounded hs levels id pos ticks
  rwa [h] at this

/-- The cause of a failure is raised at a node. -/
theorem raises_of_visit {levels id pos ticks : Nat} {f : Failure}
    (h : (a.visit levels id pos ticks).verdict = .failed f) : ∃ origin, a.Raises origin f.cause := by
  have hfounded : a.Founded pos (a.visit levels id pos ticks).verdict :=
    (founded_invariant a).visit hs trivial
  rwa [h] at hfounded

end GraphLexer.Attempt
