/-
What a visit does, kind by kind. The three kinds of node that compare the input with something differ
only in the number of units they take (`taken`), and then all go on in the same way
(`perform_matcher`).
-/
import GraphLexer.Attempt.Visit
import GraphLexer.Proofs.Source

namespace GraphLexer

/-- Whether a node compares the input with something. -/
def Step.isMatcher : Step → Bool
  | .literal _ _ | .unicode _ _ | .regex _ _ => true
  | .state _ | .subState _ _ | .applyTag _ => false

namespace Attempt

variable {a : Attempt} {go : Nat → Nat → Nat → Result} {id pos ticks : Nat} {node : GraphNode}

/-! ## Ticks -/

/-- **The count is compared after the tick.** As long as it has been within the limit, a tick is beyond the
    limit exactly if the number after it is. -/
theorem exceeded_iff {limits : Limits} (h : ticks ≤ limits.ticks.toNat) :
    limits.Exceeded ticks ↔ limits.ticks.toNat < counted ticks := by
  have hlt : limits.ticks.toNat < UInt32.size := limits.ticks.toNat_lt
  unfold Limits.Exceeded Limits.Binds counted
  by_cases hb : ticks + 1 < UInt32.size
  · rw [Nat.mod_eq_of_lt hb]
    omega
  · obtain rfl : ticks = UInt32.size - 1 := by omega
    have hwrap : (UInt32.size - 1 + 1) % UInt32.size = 0 := by decide
    omega

theorem counted_le {limits : Limits} (h : ¬ limits.Exceeded ticks) :
    counted ticks ≤ limits.ticks.toNat := by
  have hlt : limits.ticks.toNat < UInt32.size := limits.ticks.toNat_lt
  have hmod : counted ticks ≤ ticks + 1 := Nat.mod_le _ _
  have hsize : counted ticks < UInt32.size := Nat.mod_lt _ (by decide)
  unfold Limits.Exceeded Limits.Binds at h
  omega

/-- Under a limit that can be exceeded, ticks are only added. -/
theorem counted_of_binds {limits : Limits} (hb : limits.Binds) (h : ¬ limits.Exceeded ticks) :
    counted ticks = ticks + 1 := by
  unfold Limits.Exceeded at h
  unfold Limits.Binds at h hb
  exact Nat.mod_eq_of_lt (by omega)

/-! ## Nodes -/

/-- How many units are left from a position on. -/
def left (a : Attempt) (pos : Nat) : Nat :=
  a.source.length - pos

/-- The units that a node takes itself, before its transitions are tried. -/
def taken (a : Attempt) (pos : Nat) : Step → Option Nat
  | .literal _ units => if a.source.hasUnitsAt pos units then some units.length else none
  | .unicode min max =>
    (a.source.unit? pos).bind fun unit =>
      if min.all (·.toNat ≤ unit.toNat) ∧ max.all (unit.toNat ≤ ·.toNat) then some 1 else none
  | .regex _ matcher => (a.source.viewFrom pos).bind matcher.matchLength
  | .state _ | .subState _ _ | .applyTag _ => some 0

theorem perform_of_none (h : a.graph.node? id = none) : a.perform go id pos ticks = .rejected ticks := by
  unfold perform; simp only [h]

section
variable (hn : a.graph.node? id = some node)
include hn

theorem perform_state {name : Nat} (h : node.step = .state name) :
    a.perform go id pos ticks = transitions go node pos ticks := by
  unfold perform; simp only [hn, h]

theorem perform_applyTag {tag : Nat} (h : node.step = .applyTag tag) : a.perform go id pos ticks =
    (transitions go node pos ticks).bind
      (fun p ticks => .matched ⟨p.len, [⟨tag, pos, p.len, p.tags⟩]⟩ ticks)
      (fun ticks => (a.giveUp node pos ticks).mapFailure (record node.step)) := by
  unfold perform; simp only [hn, h]

theorem perform_matcher (h : node.step.isMatcher = true) : a.perform go id pos ticks =
    match a.taken pos node.step with
    | none => .rejected ticks
    | some n => a.advance go id node pos n ticks := by
  unfold perform
  cases hs : node.step with
  | state | subState | applyTag => rw [hs] at h; cases h
  | literal text units => simp only [hn, hs, taken]; split <;> rfl
  | unicode min max =>
    simp only [hn, hs, taken]
    cases a.source.unit? pos with
    | none => rfl
    | some unit => simp only [Option.bind_some]; split <;> rfl
  | regex pattern matcher =>
    cases hm : (a.source.viewFrom pos).bind matcher.matchLength <;> simp only [hn, hs, taken, hm]

theorem perform_undefined {target : Nat} {r : Repetition} (h : node.step = .subState target r)
    (he : a.graph.entryOf target = none) : a.perform go id pos ticks =
      .failed (.unknownState (a.graph.states.name target)) pos ticks := by
  unfold perform; simp only [hn, h, he]

theorem perform_subState {target entry : Nat} {r : Repetition} (h : node.step = .subState target r)
    (he : a.graph.entryOf target = some entry) : a.perform go id pos ticks =
      a.loop id node r pos (go entry) (transitions go node) (a.rounds r) 0 pos ticks := by
  unfold perform; simp only [hn, h, he]

end

/-- What a node takes is there to be taken. -/
theorem taken_le {text : String} (hs : a.source = Source.ofText text) {step : Step} {n : Nat}
    (h : a.taken pos step = some n) : n ≤ a.left pos := by
  rw [left, hs]
  rw [taken.eq_def, hs] at h
  cases step with
  | state | subState | applyTag => cases h; exact Nat.zero_le _
  | literal text' units =>
    simp only [Option.ite_none_right_eq_some, Option.some.injEq] at h
    exact h.2 ▸ Source.length_le_of_hasUnitsAt text h.1
  | unicode min max =>
    obtain ⟨unit, hu, h⟩ := Option.bind_eq_some_iff.1 h
    simp only [Option.ite_none_right_eq_some, Option.some.injEq] at h
    exact h.2 ▸ Source.one_le_of_unit? text hu
  | regex pattern matcher =>
    obtain ⟨rest, hv, hm⟩ := Option.bind_eq_some_iff.1 h
    rw [← Source.length_of_viewFrom text hv]
    exact matcher.matchLength_le hm

end Attempt

end GraphLexer
