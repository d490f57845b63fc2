/-
Loops over targets that take something.

A node is productive if no visit of it matches without taking a unit. A loop over such a node is further
on after each round, so it does not circle. If this holds of every loop that has no upper bound, no
visit spins (`not_spins`).
-/
import GraphLexer.Proofs.Attempt.Spin

namespace GraphLexer

/-- A verdict that is no match of zero units. -/
def Verdict.Takes : Verdict → Prop
  | .matched p => 0 < p.len
  | .rejected | .failed _ | .unfinished => True

/-- No visit of a node, at any position of any text under any limits, matches zero units. -/
def Graph.Productive (g : Graph) (id : Nat) : Prop :=
  ∀ (text : String) (limits : Limits) (patience levels pos ticks : Nat), levels ≤ limits.depth.toNat →
    pos ≤ (Source.ofText text).length →
      ((Attempt.mk g (.ofText text) limits patience).visit levels id pos ticks).verdict.Takes

/-- The target of every invocation without an upper bound is undefined or productive. -/
def Graph.LoopsProductive (g : Graph) : Prop :=
  ∀ id node target r entry, g.node? id = some node → node.step = .subState target r → r.max = none →
    g.entryOf target = some entry → g.Productive entry

namespace Attempt

variable {a : Attempt} {r : Repetition} {round leave : Nat → Nat → Result}

theorem MeetsFirst.exists {go : Nat → Nat → Result} {P : Nat → Nat → Prop} :
    ∀ {ids t}, MeetsFirst go P ids t → ∃ id t', P id t'
  | id :: _, t, .inl h => ⟨id, t, h⟩
  | _ :: _, _, .inr ⟨_, h⟩ => h.exists

section
variable (hlen : ∀ {at_ t p}, (round at_ t).verdict = .matched p → p.len ≤ a.left at_)
include hlen

/-- Another round of a loop stays within the input. It is further on if the target takes something. -/
theorem Turn.further {count : Nat} {s s' : Nat × Nat} (h : a.Turn r round leave count s s')
    (hs : s.1 ≤ a.source.length) : s'.1 ≤ a.source.length ∧
      ((∀ t, (round s.1 t).verdict.Takes) → s.1 < s'.1) := by
  obtain ⟨_, _, p, hp, h⟩ := h
  have hleft := hlen hp
  rcases h with ⟨hpos, rfl⟩ | ⟨hzero, _, rfl⟩
  · exact ⟨by simp only [left] at *; omega, fun _ => Nat.lt_add_of_pos_right hpos⟩
  · refine ⟨hs, fun htakes => ?_⟩
    have hround := htakes (before r leave count s).ticks
    rw [show (round s.1 _).verdict = .matched p from hp] at hround
    exact absurd hround (by simp [Verdict.Takes, hzero])

theorem Turns.further {count count' : Nat} {s s' : Nat × Nat}
    (h : a.Turns r round leave count s count' s') : s.1 ≤ a.source.length → s'.1 ≤ a.source.length ∧
      ((∀ at_ ≤ a.source.length, ∀ t, (round at_ t).verdict.Takes) → s.1 + count' ≤ s'.1 + count) := by
  induction h with
  | refl => exact fun hs => ⟨hs, fun _ => Nat.le_refl _⟩
  | head ht _ ih =>
    intro hs
    obtain ⟨hs₁, hlt⟩ := ht.further hlen hs
    obtain ⟨hs', hle⟩ := ih hs₁
    refine ⟨hs', fun htakes => ?_⟩
    have := hlt (htakes _ hs)
    have := hle htakes
    omega

theorem not_circles {count : Nat} {s : Nat × Nat} (hs : s.1 ≤ a.source.length)
    (htakes : r.max = none → ∀ at_ ≤ a.source.length, ∀ t, (round at_ t).verdict.Takes) :
    ¬ a.Circles r round leave count s := by
  rintro ⟨hmax, _, count', hlt, h⟩
  have := (h.further hlen hs).2 (htakes hmax)
  omega

end

/-- **Where all loops take something, no visit spins**, by induction on the levels to spare. -/
theorem not_spins {text : String} (hs : a.source = Source.ofText text)
    (hg : a.graph.LoopsProductive) : ∀ {levels id pos ticks : Nat}, levels ≤ a.limits.depth.toNat →
      pos ≤ a.source.length → ¬ a.Spins levels id pos ticks
  | 0, _, _, _, _, _ => id
  | levels + 1, id, pos, ticks, hlevels, hpos => by
    rintro ⟨_, node, hn, h⟩
    have hnone : ∀ {id pos t}, pos ≤ a.source.length → ¬ a.Spins levels id pos t :=
      not_spins hs hg (Nat.le_of_succ_le hlevels)
    have honward : ∀ {pos t}, pos ≤ a.source.length →
        ¬ Onward (a.visit levels) (a.Spins levels) node pos t := fun hpos h =>
      let ⟨_, _, h⟩ := h.exists
      hnone hpos h
    split at h
    · next target r hstep =>
      obtain ⟨entry, he, count, s, hturns, h⟩ := h
      have hs' := (hturns.further (len_le_of_visit hs) hpos).1
      have htakes : r.max = none → ∀ at_ ≤ a.source.length, ∀ t,
          (a.visit levels entry at_ t).verdict.Takes := fun hmax at_ hat t => by
        obtain ⟨graph, source, limits, patience⟩ := a
        subst hs
        exact hg id node target r entry hn hstep hmax he text limits patience levels at_ t
          (Nat.le_of_succ_le hlevels) hat
      rcases h with (⟨_, h⟩ | ⟨_, _, h | ⟨_, _, _, h⟩⟩) | h
      · exact honward hs' h
      · exact hnone hs' h
      · exact honward hs' h
      · exact not_circles (len_le_of_visit hs) hs' htakes h
    · obtain ⟨n, htaken, h⟩ := h
      have := taken_le hs htaken
      exact honward (by simp only [left] at this; omega) h

end Attempt

end GraphLexer
