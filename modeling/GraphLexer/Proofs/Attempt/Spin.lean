/-
Attempts that never end.

A visit `Spins` if it comes, directly or through the visits it makes, to a loop that circles. This says
nothing about a bound on rounds: a visit that spins is cut off however many rounds its loops are given,
and one that is cut off, given enough of them, spins (`unfinished_iff_spins`).
-/
import GraphLexer.Proofs.Attempt.Bounds
import GraphLexer.Proofs.Attempt.Loop
import GraphLexer.Proofs.Attempt.Refinement

namespace GraphLexer.Attempt

/-- Some nodes, tried one after the other, come to one with `P`. -/
def MeetsFirst (go : Nat → Nat → Result) (P : Nat → Nat → Prop) : List Nat → Nat → Prop
  | [], _ => False
  | id :: ids, ticks =>
    P id ticks ∨ (go id ticks).verdict = .rejected ∧ MeetsFirst go P ids (go id ticks).ticks

def Onward (go : Nat → Nat → Nat → Result) (P : Nat → Nat → Nat → Prop) (node : GraphNode)
    (pos : Nat) : Nat → Prop :=
  MeetsFirst (fun id => go id pos) (fun id => P id pos) node.transitions

/-- A node that visits other nodes by `go` comes to one with `P`, or to a loop that circles. -/
def Trapped (a : Attempt) (go : Nat → Nat → Nat → Result) (P : Nat → Nat → Nat → Prop)
    (id pos ticks : Nat) : Prop :=
  ∃ node, a.graph.node? id = some node ∧
    match node.step with
    | .subState target r => ∃ entry, a.graph.entryOf target = some entry ∧
        a.Traps r (go entry) (transitions go node) (P entry) (Onward go P node) 0 (pos, ticks)
    | step => ∃ n, a.taken pos step = some n ∧ Onward go P node (pos + n) ticks

/-- A visit comes to a loop that circles. -/
def Spins (a : Attempt) : Nat → Nat → Nat → Nat → Prop
  | 0, _, _, _ => False
  | levels + 1, id, pos, ticks =>
    ¬ a.limits.Exceeded ticks ∧ a.Trapped (a.visit levels) (Spins a levels) id pos (counted ticks)

variable {a : Attempt} {go : Nat → Nat → Nat → Result} {P Q : Nat → Nat → Nat → Prop}

/-! ## One node -/

/-- Nodes that come to one with `P` do so as well where fewer of them are cut off. -/
theorem MeetsFirst.mono {go go' : Nat → Nat → Result} {P Q : Nat → Nat → Prop}
    (hgo : ∀ id t, Result.Upto (· = .unfinished) (go id t) (go' id t)) (h : ∀ id t, P id t → Q id t) :
    ∀ {ids t}, MeetsFirst go P ids t → MeetsFirst go' Q ids t
  | _ :: _, _, .inl hp => .inl (h _ _ hp)
  | id :: _, t, .inr ⟨hr, hs⟩ => by
    obtain ⟨hr', ht⟩ := (hgo id t).of_rejected stops_unfinished hr
    exact .inr ⟨hr', ht ▸ hs.mono hgo h⟩

theorem MeetsFirst.imp {go : Nat → Nat → Result} {P Q : Nat → Nat → Prop}
    (h : ∀ id t, P id t → Q id t) {ids : List Nat} {t : Nat} :
    MeetsFirst go P ids t → MeetsFirst go Q ids t :=
  MeetsFirst.mono (fun _ _ => .refl _) h

theorem Trapped.imp (h : ∀ id pos t, P id pos t → Q id pos t) {id pos ticks : Nat} :
    a.Trapped go P id pos ticks → a.Trapped go Q id pos ticks := by
  rintro ⟨node, hn, hs⟩
  refine ⟨node, hn, ?_⟩
  split at hs
  · obtain ⟨entry, he, hs⟩ := hs
    exact ⟨entry, he, hs.imp (h entry) fun _ _ => MeetsFirst.imp fun id => h id _⟩
  · obtain ⟨n, htaken, hs⟩ := hs
    exact ⟨n, htaken, MeetsFirst.imp (fun id => h id _) hs⟩

theorem firstOf_eq_unfinished {go : Nat → Nat → Result} :
    ∀ {ids t}, (firstOf go ids t).verdict = .unfinished ↔
      MeetsFirst go (fun id t => (go id t).verdict = .unfinished) ids t
  | [], _ => by simp [firstOf, MeetsFirst, Result.rejected]
  | id :: ids, t => by
    rw [firstOf, Result.orElse, Result.bind_eq_unfinished, MeetsFirst, firstOf_eq_unfinished]
    simp [Result.matched]

def CutOff (go : Nat → Nat → Nat → Result) (id pos ticks : Nat) : Prop :=
  (go id pos ticks).verdict = .unfinished

theorem transitions_eq_unfinished {node : GraphNode} {pos ticks : Nat} :
    (transitions go node pos ticks).verdict = .unfinished ↔ Onward go (CutOff go) node pos ticks := by
  unfold transitions Onward
  cases node.transitions with
  | nil => simp [MeetsFirst, Result.matched]
  | cons id ids =>
    rw [if_neg (by simp), Result.mapFailure_eq_unfinished, firstOf_eq_unfinished]
    rfl

theorem advance_eq_unfinished {id pos n ticks : Nat} {node : GraphNode} :
    (a.advance go id node pos n ticks).verdict = .unfinished ↔
      Onward go (CutOff go) node (pos + n) ticks := by
  unfold advance
  rw [Result.verdict_after, Result.bind_eq_unfinished, transitions_eq_unfinished]
  simp [giveUp_ne_unfinished, Result.matched]

theorem perform_eq_unfinished {id pos ticks : Nat} {node : GraphNode} (hn : a.graph.node? id = some node)
    (hs : ∀ target r, node.step ≠ .subState target r) :
    (a.perform go id pos ticks).verdict = .unfinished ↔
      ∃ n, a.taken pos node.step = some n ∧ Onward go (CutOff go) node (pos + n) ticks := by
  cases hstep : node.step with
  | subState target r => exact absurd hstep (hs target r)
  | state name =>
    rw [perform_state hn hstep, transitions_eq_unfinished]
    simp [taken]
  | applyTag tag =>
    rw [perform_applyTag hn hstep, Result.bind_eq_unfinished, transitions_eq_unfinished]
    simp [taken, Result.matched, Result.mapFailure_eq_unfinished, giveUp_ne_unfinished]
  | _ =>
    rw [perform_matcher hn (by rw [hstep]; rfl), hstep]
    split
    · next h => simp [h, Result.rejected]
    · next n h => rw [h, advance_eq_unfinished]; simp

theorem Trapped.unfinished {id pos ticks : Nat} (h : a.Trapped go (CutOff go) id pos ticks) :
    (a.perform go id pos ticks).verdict = .unfinished := by
  obtain ⟨node, hn, h⟩ := h
  split at h
  · next target r hstep =>
    obtain ⟨entry, he, h⟩ := h
    rw [perform_subState hn hstep he]
    exact h.unfinished (fun _ _ h => h) (fun _ _ => transitions_eq_unfinished.2) _
  · next hs => exact (perform_eq_unfinished hn hs).2 h

/-- A node that is cut off is trapped, if its target takes no more than is left and loops are given
    enough rounds. -/
theorem trapped_of_unfinished {id pos ticks : Nat}
    (hlen : ∀ {id pos t p}, (go id pos t).verdict = .matched p → p.len ≤ a.left pos)
    (hpatience : (a.left pos + 1) * (a.limits.ticks.toNat + 1) ≤ a.patience)
    (hticks : ticks ≤ a.limits.ticks.toNat) (h : (a.perform go id pos ticks).verdict = .unfinished) :
    a.Trapped go (CutOff go) id pos ticks := by
  cases hn : a.graph.node? id with
  | none => rw [perform_of_none hn] at h; cases h
  | some node =>
    refine ⟨node, hn, ?_⟩
    split
    · next target r hstep =>
      cases he : a.graph.entryOf target with
      | none => rw [perform_undefined hn hstep he] at h; cases h
      | some entry =>
        rw [perform_subState hn hstep he] at h
        exact ⟨entry, rfl, (traps_of_unfinished hlen hpatience ⟨Nat.le_refl _, rfl, hticks⟩ h).imp
          (fun _ _ h => h) fun _ _ => transitions_eq_unfinished.1⟩
    · next hs => exact (perform_eq_unfinished hn hs).1 h

/-! ## All visits -/

theorem Spins.unfinished : ∀ {levels id pos ticks : Nat}, a.Spins levels id pos ticks →
    (a.visit levels id pos ticks).verdict = .unfinished
  | 0, _, _, _, h => h.elim
  | _ + 1, _, _, _, h => by
    rw [visit, Result.verdict_visited, tick_eq_unfinished]
    exact ⟨h.1, (h.2.imp fun _ _ _ => Spins.unfinished).unfinished⟩

/-- **A visit is cut off exactly if it spins**, given as many rounds as there are positions and
    ticks. -/
theorem unfinished_iff_spins {text : String} (hs : a.source = Source.ofText text)
    (hpatience : (a.source.length + 1) * (a.limits.ticks.toNat + 1) ≤ a.patience) :
    ∀ {levels id pos ticks : Nat},
      (a.visit levels id pos ticks).verdict = .unfinished ↔ a.Spins levels id pos ticks
  | 0, id, pos, ticks => by
    simp [visit, tick_eq_unfinished, Result.failed, Spins]
  | levels + 1, id, pos, ticks => by
    refine ⟨fun h => ?_, Spins.unfinished⟩
    rw [visit, Result.verdict_visited, tick_eq_unfinished] at h
    have hle : (a.left pos + 1) * (a.limits.ticks.toNat + 1) ≤ a.patience :=
      Nat.le_trans (Nat.mul_le_mul_right _ (by unfold left; omega)) hpatience
    exact ⟨h.1, (trapped_of_unfinished (len_le_of_visit hs) hle (counted_le h.1) h.2).imp fun _ _ _ =>
      (unfinished_iff_spins hs hpatience).1⟩

/-! ## More rounds -/

/-- **A visit that spins does so with more rounds as well.** -/
theorem Spins.mono {n : Nat} (hle : a.patience ≤ n) : ∀ {levels id pos ticks : Nat},
    a.Spins levels id pos ticks → { a with patience := n }.Spins levels id pos ticks
  | levels + 1, id, pos, ticks, ⟨ht, node, hn, h⟩ => by
    have hgo := visit_of_patience_le hle levels
    have honward : ∀ pos t, Onward (a.visit levels) (a.Spins levels) node pos t →
        Onward ({ a with patience := n }.visit levels) ({ a with patience := n }.Spins levels) node
          pos t :=
      fun pos _ => MeetsFirst.mono (fun id => hgo id pos) fun _ _ => Spins.mono hle
    refine ⟨ht, node, hn, ?_⟩
    split at h
    · obtain ⟨entry, he, h⟩ := h
      exact ⟨entry, he, h.mono (hgo entry) ((refines_of_patience_le hle).transitions
        ⟨rfl, rfl, fun _ _ => .refl _⟩ hgo) (fun _ _ => Spins.mono hle) honward⟩
    · obtain ⟨m, htaken, h⟩ := h
      exact ⟨m, htaken, honward _ _ h⟩

/-! ## Loops that take nothing -/

/-- A failure because too many ticks have passed without progress. -/
def Exhausted (a : Attempt) (v : Verdict) : Prop :=
  ∃ f, v = .failed f ∧ f.cause = .ticks a.limits.ticks.toNat

theorem tick_exhausted {pos ticks : Nat} {next : Nat → Result}
    (h : ∀ t, a.Exhausted (next t).verdict ∨ (next t).verdict = .unfinished) :
    a.Exhausted (a.tick pos ticks next).verdict ∨ (a.tick pos ticks next).verdict = .unfinished := by
  unfold tick; split
  · exact Or.inl ⟨_, rfl, rfl⟩
  · exact h _

/-- A target that takes nothing at a position, as long as ticks are left. -/
def Idles (a : Attempt) (target : Nat → Result) : Prop :=
  ∀ t, (∃ p, (target t).verdict = .matched p ∧ p.len = 0) ∨ a.Exhausted (target t).verdict

/-- A continuation that is not taken, as long as ticks are left. -/
def Declines (a : Attempt) (next : Nat → Result) : Prop :=
  ∀ t, (next t).verdict = .rejected ∨ a.Exhausted (next t).verdict

/-- A loop without an upper bound whose target takes nothing runs out of ticks, or of rounds. -/
theorem loop_exhausted {id start pos : Nat} {node : GraphNode} {r : Repetition}
    {round leave : Nat → Nat → Result} (hmax : r.max = none) (hround : a.Idles (round pos))
    (hleave : ¬ r.greedy → a.Declines (leave pos)) :
    ∀ fuel count ticks,
      a.Exhausted (a.loop id node r start round leave fuel count pos ticks).verdict ∨
        (a.loop id node r start round leave fuel count pos ticks).verdict = .unfinished
  | 0, _, _ => Or.inr rfl
  | fuel + 1, count, ticks => by
    have hat : atMax r count = false := by simp [atMax, hmax]
    have hbefore : (before r leave count (pos, ticks)).verdict = .rejected ∨
        a.Exhausted (before r leave count (pos, ticks)).verdict := by
      by_cases hg : r.greedy
      · simp [before, LeavesFirst, hg, hat, Result.rejected]
      · unfold before; split
        · exact hleave hg ticks
        · exact Or.inl rfl
    rw [loop]
    change a.Exhausted ((before r leave count (pos, ticks)).orElse _).verdict ∨
      ((before r leave count (pos, ticks)).orElse _).verdict = _
    rcases hbefore with hb | ⟨f, hb, hc⟩
    · rw [Result.orElse, Result.bind_of_rejected hb, Result.verdict_after, hat, if_neg (by simp)]
      rcases hround (before r leave count (pos, ticks)).ticks with ⟨p, hp, hlen⟩ | ⟨f, hf, hc⟩
      · rw [Result.bind_of_matched hp, Result.verdict_after, hlen, if_neg (by simp)]
        refine tick_exhausted fun t => ?_
        rw [Result.verdict_after]
        have hrest : a.Exhausted (a.loop id node r start round leave fuel (count + 1) pos t).verdict ∨
            (a.loop id node r start round leave fuel (count + 1) pos t).verdict = .unfinished :=
          loop_exhausted hmax hround hleave fuel (count + 1) t
        rcases hrest with ⟨f, hf, hc⟩ | hu
        · exact Or.inl ⟨f, by rw [Nat.add_zero pos, Result.bind_of_failed hf, hf], hc⟩
        · exact Or.inr (by rw [Nat.add_zero pos, Result.bind_of_unfinished hu, hu])
      · exact Or.inl ⟨f, by rw [Result.bind_of_failed hf, hf], hc⟩
    · exact Or.inl ⟨f, by rw [Result.orElse, Result.bind_of_failed hb, hb], hc⟩

/-- An invocation without an upper bound whose target takes nothing at a position, and that is not left
    there. -/
structure IdleLoop (a : Attempt) (levels id pos : Nat) (node : GraphNode) (target entry : Nat)
    (r : Repetition) : Prop where
  found : a.graph.node? id = some node
  invokes : node.step = .subState target r
  defined : a.graph.entryOf target = some entry
  unbounded : r.max = none
  idles : a.Idles (a.visit levels entry pos)
  declines : ¬ r.greedy → a.Declines (transitions (a.visit levels) node pos)

/-- **A loop that takes nothing runs out of ticks**, or is cut off. -/
theorem IdleLoop.exhausted {levels id pos target entry : Nat} {node : GraphNode} {r : Repetition}
    (h : a.IdleLoop levels id pos node target entry r) (ticks : Nat) :
    a.Exhausted (a.visit (levels + 1) id pos ticks).verdict ∨
      (a.visit (levels + 1) id pos ticks).verdict = .unfinished := by
  rw [visit, Result.verdict_visited]
  refine tick_exhausted fun t => ?_
  rw [perform_subState h.found h.invokes h.defined]
  exact loop_exhausted h.unbounded h.idles h.declines _ _ _

end GraphLexer.Attempt
