/-
Loops that come back to where they were.

From one round to the next, a loop carries a position and a number of ticks. `Turn` says how another
round changes them, and `Turns` any number of rounds. A loop `Circles` if it has made the rounds that it
has to make, has no upper bound, and comes to the same position and ticks again; it then goes on
forever. A loop that is cut off has met a round or a continuation that is cut off itself, or circles,
if it was given as many rounds as there are positions and ticks (`traps_of_unfinished`).
-/
import Mathlib.Data.Finset.Prod
import Mathlib.Order.Interval.Finset.Nat
import GraphLexer.Proofs.Attempt.Refinement

namespace GraphLexer.Attempt

section
variable (a : Attempt) (r : Repetition) (round leave : Nat → Nat → Result)

/-- Whether a loop tries to leave before it makes another round. -/
def LeavesFirst (count : Nat) : Prop :=
  (r.min.toNat ≤ count ∧ ¬ r.greedy) ∨ atMax r count

instance (count : Nat) : Decidable (LeavesFirst r count) :=
  inferInstanceAs (Decidable (_ ∨ _))

def before (count : Nat) (s : Nat × Nat) : Result :=
  if LeavesFirst r count then leave s.1 s.2 else .rejected s.2

def another (count : Nat) (s : Nat × Nat) : Result :=
  round s.1 (before r leave count s).ticks

/-- A loop after `count` rounds makes another one, which matches. -/
def Turn (count : Nat) (s s' : Nat × Nat) : Prop :=
  (before r leave count s).verdict = .rejected ∧ ¬ atMax r count ∧
    ∃ p, (another r round leave count s).verdict = .matched p ∧
      ((0 < p.len ∧ s' = (s.1 + p.len, 0)) ∨
        (p.len = 0 ∧ ¬ a.limits.Exceeded (another r round leave count s).ticks ∧
          s' = (s.1, counted (another r round leave count s).ticks)))

inductive Turns : Nat → Nat × Nat → Nat → Nat × Nat → Prop
  | refl (count : Nat) (s : Nat × Nat) : Turns count s count s
  | head {count count' : Nat} {s s₁ s' : Nat × Nat} : a.Turn r round leave count s s₁ →
      Turns (count + 1) s₁ count' s' → Turns count s count' s'

/-- A loop that has made the rounds it has to make comes to the same position and ticks again. -/
def Circles (count : Nat) (s : Nat × Nat) : Prop :=
  r.max = none ∧ r.min.toNat ≤ count ∧
    ∃ count', count < count' ∧ a.Turns r round leave count s count' s

/-- A loop visits, between two rounds, its target by `round` or its transitions by `leave`, at a
    position and ticks with `Round` or `Leave`. -/
def Meets (Round Leave : Nat → Nat → Prop) (count : Nat) (s : Nat × Nat) : Prop :=
  (LeavesFirst r count ∧ Leave s.1 s.2) ∨
    ((before r leave count s).verdict = .rejected ∧ ¬ atMax r count ∧
      (Round s.1 (before r leave count s).ticks ∨
        ((another r round leave count s).verdict = .rejected ∧ r.min.toNat ≤ count ∧ r.greedy ∧
          Leave s.1 (another r round leave count s).ticks)))

/-- What keeps a loop from ending: it visits something with `Round` or `Leave`, or circles. -/
def Traps (Round Leave : Nat → Nat → Prop) (count : Nat) (s : Nat × Nat) : Prop :=
  ∃ count' s', a.Turns r round leave count s count' s' ∧
    (Meets r round leave Round Leave count' s' ∨ a.Circles r round leave count' s')

end

variable {a : Attempt} {r : Repetition} {round leave : Nat → Nat → Result}

theorem giveUp_ne_unfinished {node : GraphNode} {pos ticks : Nat} :
    (a.giveUp node pos ticks).verdict ≠ .unfinished := by
  unfold giveUp noMatch; split <;> simp [Result.failed, Result.rejected]

theorem tick_eq_unfinished {pos ticks : Nat} {next : Nat → Result} :
    (a.tick pos ticks next).verdict = .unfinished ↔
      ¬ a.limits.Exceeded ticks ∧ (next (counted ticks)).verdict = .unfinished := by
  unfold tick
  split
  · next h => simp [Result.failed, h]
  · next h => simp [h]

/-! ## Rounds that come to the same -/

section
variable {n : Nat} {r : Repetition} {round round' leave leave' : Nat → Nat → Result}
  (hround : ∀ at_ t, Result.Upto (· = .unfinished) (round at_ t) (round' at_ t))
  (hleave : ∀ at_ t, Result.Upto (· = .unfinished) (leave at_ t) (leave' at_ t))

include hleave in
theorem before_upto {count : Nat} {s : Nat × Nat} :
    Result.Upto (· = .unfinished) (before r leave count s) (before r leave' count s) := by
  unfold before; split
  · exact hleave _ _
  · exact .refl _

include hround hleave

theorem another_upto {count : Nat} {s : Nat × Nat} (h : (before r leave count s).verdict = .rejected) :
    Result.Upto (· = .unfinished) (another r round leave count s) (another r round' leave' count s) := by
  unfold another
  rw [((before_upto hleave).of_rejected stops_unfinished h).2]
  exact hround _ _

theorem Turn.mono {count : Nat} {s s' : Nat × Nat} :
    a.Turn r round leave count s s' → { a with patience := n }.Turn r round' leave' count s s' := by
  rintro ⟨hb, hmax, p, hp, hs⟩
  obtain ⟨hp', ht⟩ := (another_upto hround hleave hb).of_matched stops_unfinished hp
  refine ⟨((before_upto hleave).of_rejected stops_unfinished hb).1, hmax, p, hp', ?_⟩
  rwa [ht]

theorem Turns.mono {count count' : Nat} {s s' : Nat × Nat} (h : a.Turns r round leave count s count' s') :
    { a with patience := n }.Turns r round' leave' count s count' s' := by
  induction h with
  | refl => exact .refl _ _
  | head ht _ ih => exact .head (ht.mono hround hleave) ih

theorem Meets.mono {Round Round' Leave Leave' : Nat → Nat → Prop} {count : Nat} {s : Nat × Nat}
    (hR : ∀ at_ t, Round at_ t → Round' at_ t) (hL : ∀ at_ t, Leave at_ t → Leave' at_ t) :
    Meets r round leave Round Leave count s → Meets r round' leave' Round' Leave' count s := by
  rintro (⟨h, hl⟩ | ⟨hb, hmax, h⟩)
  · exact Or.inl ⟨h, hL _ _ hl⟩
  obtain ⟨hb', ht⟩ := (before_upto hleave).of_rejected stops_unfinished hb
  refine Or.inr ⟨hb', hmax, ?_⟩
  rw [ht]
  rcases h with h | ⟨ha, hmin, hg, hl⟩
  · exact Or.inl (hR _ _ h)
  · obtain ⟨ha', ht⟩ := (another_upto hround hleave hb).of_rejected stops_unfinished ha
    exact Or.inr ⟨ha', hmin, hg, by rw [ht]; exact hL _ _ hl⟩

theorem Traps.mono {Round Round' Leave Leave' : Nat → Nat → Prop} {count : Nat} {s : Nat × Nat}
    (hR : ∀ at_ t, Round at_ t → Round' at_ t) (hL : ∀ at_ t, Leave at_ t → Leave' at_ t) :
    a.Traps r round leave Round Leave count s →
      { a with patience := n }.Traps r round' leave' Round' Leave' count s := by
  rintro ⟨count', s', hs, h⟩
  refine ⟨count', s', hs.mono hround hleave, h.imp (Meets.mono hround hleave hR hL) ?_⟩
  rintro ⟨hmax, hmin, count'', hlt, hs⟩
  exact ⟨hmax, hmin, count'', hlt, hs.mono hround hleave⟩

end

theorem Meets.imp {Round Round' Leave Leave' : Nat → Nat → Prop} {count : Nat} {s : Nat × Nat}
    (hround : ∀ at_ t, Round at_ t → Round' at_ t) (hleave : ∀ at_ t, Leave at_ t → Leave' at_ t) :
    Meets r round leave Round Leave count s → Meets r round leave Round' Leave' count s :=
  Meets.mono (fun _ _ => .refl _) (fun _ _ => .refl _) hround hleave

theorem Traps.imp {Round Round' Leave Leave' : Nat → Nat → Prop} {count : Nat} {s : Nat × Nat}
    (hround : ∀ at_ t, Round at_ t → Round' at_ t) (hleave : ∀ at_ t, Leave at_ t → Leave' at_ t) :
    a.Traps r round leave Round Leave count s → a.Traps r round leave Round' Leave' count s :=
  Traps.mono (fun _ _ => .refl _) (fun _ _ => .refl _) hround hleave

/-! ## One round -/

theorem before_eq_unfinished {count : Nat} {s : Nat × Nat} :
    (before r leave count s).verdict = .unfinished ↔
      LeavesFirst r count ∧ (leave s.1 s.2).verdict = .unfinished := by
  unfold before; split
  · next h => simp [h]
  · next h => simp [h, Result.rejected]

section
variable {id start fuel count : Nat} {node : GraphNode} {s : Nat × Nat}

theorem matched_eq_unfinished {p : Partial} {at_ t : Nat} {g : Nat → Nat → Result} :
    (let next (ticks : Nat) : Result :=
        ((g (at_ + p.len) ticks).bind (fun q ticks => .matched (p.after q) ticks) .rejected).after
          [.repeated id (count + 1) (at_ + p.len - start)]
      if 0 < p.len then next 0 else a.tick at_ t next).verdict = .unfinished ↔
      ∃ s' : Nat × Nat, ((0 < p.len ∧ s' = (at_ + p.len, 0)) ∨
        (p.len = 0 ∧ ¬ a.limits.Exceeded t ∧ s' = (at_, counted t))) ∧
        (g s'.1 s'.2).verdict = .unfinished := by
  have hnext : ∀ t, (((g (at_ + p.len) t).bind (fun q ticks => Result.matched (p.after q) ticks)
      .rejected).after [.repeated id (count + 1) (at_ + p.len - start)]).verdict = .unfinished ↔
      (g (at_ + p.len) t).verdict = .unfinished := fun t => by
    simp [Result.bind_eq_unfinished, Result.matched, Result.rejected]
  dsimp only
  by_cases hlen : p.len = 0
  · rw [if_neg (by omega), tick_eq_unfinished, hnext]
    simp [hlen]
  · rw [if_pos (by omega), hnext]
    simp [hlen]; omega

theorem missed_eq_unfinished {at_ t : Nat} :
    (if count < r.min.toNat then (if 0 < count then a.giveUp node at_ t else .rejected t)
      else if r.greedy then (leave at_ t).orElse (a.giveUp node at_)
      else a.giveUp node at_ t).verdict = .unfinished ↔
      r.min.toNat ≤ count ∧ r.greedy ∧ (leave at_ t).verdict = .unfinished := by
  by_cases hmin : count < r.min.toNat
  · rw [if_pos hmin]
    split <;> simp [giveUp_ne_unfinished, Result.rejected] <;> omega
  rw [if_neg hmin]
  by_cases hg : r.greedy
  · rw [if_pos hg, Result.orElse, Result.bind_eq_unfinished]
    simp [giveUp_ne_unfinished, Result.matched, hg]; omega
  · rw [if_neg hg]
    simp [giveUp_ne_unfinished, hg]

/-- A loop is cut off where it visits something that is cut off, or after another round. -/
theorem loop_succ_eq_unfinished :
    (a.loop id node r start round leave (fuel + 1) count s.1 s.2).verdict = .unfinished ↔
      Meets r round leave (fun at_ t => (round at_ t).verdict = .unfinished)
        (fun at_ t => (leave at_ t).verdict = .unfinished) count s ∨
      ∃ s', a.Turn r round leave count s s' ∧
        (a.loop id node r start round leave fuel (count + 1) s'.1 s'.2).verdict = .unfinished := by
  rw [loop]
  change ((before r leave count s).orElse _).verdict = _ ↔ _
  rw [Result.orElse, Result.bind_eq_unfinished, before_eq_unfinished]
  by_cases hmax : atMax r count
  · have hmiss : ∀ t, (if r.min.toNat ≤ count then a.giveUp node s.1 t else .rejected t).verdict ≠
        .unfinished := fun t => by split <;> simp [giveUp_ne_unfinished, Result.rejected]
    simp [hmax, hmiss, Meets, Turn, Result.matched]
  · rw [if_neg hmax, Result.bind_eq_unfinished, missed_eq_unfinished,
      exists_congr fun p => and_congr_right fun _ => matched_eq_unfinished (a := a)
        (g := a.loop id node r start round leave fuel (count + 1))]
    constructor
    · rintro (h | ⟨p, _, h⟩ | ⟨hb, h | ⟨p, hp, s', hs, h⟩ | ⟨hr, h⟩⟩)
      · exact Or.inl (Or.inl h)
      · cases h
      · exact Or.inl (Or.inr ⟨hb, hmax, Or.inl h⟩)
      · exact Or.inr ⟨s', ⟨hb, hmax, p, hp, hs⟩, h⟩
      · exact Or.inl (Or.inr ⟨hb, hmax, Or.inr ⟨hr, h⟩⟩)
    · rintro ((h | ⟨hb, _, h | ⟨hr, h⟩⟩) | ⟨s', ⟨hb, _, p, hp, hs⟩, h⟩)
      · exact Or.inl h
      · exact Or.inr (Or.inr ⟨hb, Or.inl h⟩)
      · exact Or.inr (Or.inr ⟨hb, Or.inr (Or.inr ⟨hr, h⟩)⟩)
      · exact Or.inr (Or.inr ⟨hb, Or.inr (Or.inl ⟨p, hp, s', hs, h⟩)⟩)

end

/-! ## Going around -/

/-- Beyond the lower bound, the number of rounds plays no part in a loop without an upper one. -/
theorem Turn.shift (hmax : r.max = none) {count count' : Nat} (hc : r.min.toNat ≤ count)
    (hc' : r.min.toNat ≤ count') {s s' : Nat × Nat} :
    a.Turn r round leave count s s' → a.Turn r round leave count' s s' := by
  have hat : ∀ n, atMax r n = false := fun n => by simp [atMax, hmax]
  have hbefore : before r leave count s = before r leave count' s := by
    simp only [before, LeavesFirst, hc, hc', hat]
  unfold Turn another
  rw [hbefore, hat, hat]
  exact id

theorem Turns.shift (hmax : r.max = none) {count count' : Nat} {s s' : Nat × Nat}
    (h : a.Turns r round leave count s count' s') (hc : r.min.toNat ≤ count) :
    ∀ {k : Nat}, a.Turns r round leave (count + k) s (count' + k) s' := by
  intro k
  induction h with
  | refl => exact .refl _ _
  | head ht _ ih =>
    refine .head (ht.shift hmax hc (by omega)) ?_
    rw [Nat.add_right_comm]
    exact ih (by omega)

theorem Turns.le {count count' : Nat} {s s' : Nat × Nat}
    (h : a.Turns r round leave count s count' s') : count ≤ count' := by
  induction h <;> omega

theorem Circles.traps {Round Leave : Nat → Nat → Prop} {count : Nat} {s : Nat × Nat}
    (h : a.Circles r round leave count s) : ∃ s', a.Turn r round leave count s s' ∧
      a.Traps r round leave Round Leave (count + 1) s' := by
  obtain ⟨hmax, hmin, count', hlt, hs⟩ := h
  have hagain : a.Circles r round leave count' s := by
    refine ⟨hmax, by omega, count' + (count' - count), by omega, ?_⟩
    have := hs.shift hmax hmin (k := count' - count)
    rwa [show count + (count' - count) = count' by omega] at this
  cases hs with
  | refl => omega
  | head ht hs => exact ⟨_, ht, count', s, hs, Or.inr hagain⟩

theorem Traps.unfinished {id start : Nat} {node : GraphNode} {Round Leave : Nat → Nat → Prop}
    (hround : ∀ at_ t, Round at_ t → (round at_ t).verdict = .unfinished)
    (hleave : ∀ at_ t, Leave at_ t → (leave at_ t).verdict = .unfinished) :
    ∀ fuel {count : Nat} {s : Nat × Nat}, a.Traps r round leave Round Leave count s →
      (a.loop id node r start round leave fuel count s.1 s.2).verdict = .unfinished
  | 0, _, _, _ => rfl
  | fuel + 1, count, s, h => by
    rw [loop_succ_eq_unfinished]
    obtain ⟨count', s', hs, h⟩ := h
    cases hs with
    | head ht hs => exact Or.inr ⟨_, ht, unfinished hround hleave fuel ⟨count', s', hs, h⟩⟩
    | refl =>
      rcases h with h | h
      · exact Or.inl (h.imp hround hleave)
      · obtain ⟨s', ht, h⟩ := h.traps
        exact Or.inr ⟨s', ht, unfinished hround hleave fuel h⟩

/-! ## Running out of rounds -/

/-- A path of rounds from one number of rounds to another. -/
theorem turns_of_path {f : Nat → Nat × Nat} {n c : Nat}
    (h : ∀ i < n, a.Turn r round leave (c + i) (f i) (f (i + 1))) {i : Nat} :
    ∀ {d : Nat}, i + d ≤ n → a.Turns r round leave (c + i) (f i) (c + (i + d)) (f (i + d))
  | 0, _ => .refl _ _
  | d + 1, hd => by
    rw [show i + (d + 1) = i + 1 + d by omega]
    exact .head (h i (by omega)) (turns_of_path h (i := i + 1) (d := d) (by omega))

/-- A loop that is cut off has met something that is cut off, or made all the rounds it was given. -/
theorem path_of_unfinished {id start : Nat} {node : GraphNode} :
    ∀ fuel {count : Nat} {s : Nat × Nat},
      (a.loop id node r start round leave fuel count s.1 s.2).verdict = .unfinished →
      (∃ count' s', a.Turns r round leave count s count' s' ∧
        Meets r round leave (fun at_ t => (round at_ t).verdict = .unfinished)
          (fun at_ t => (leave at_ t).verdict = .unfinished) count' s') ∨
      ∃ f : Nat → Nat × Nat, f 0 = s ∧ ∀ i < fuel, a.Turn r round leave (count + i) (f i) (f (i + 1))
  | 0, _, s, _ => Or.inr ⟨fun _ => s, rfl, fun i hi => by omega⟩
  | fuel + 1, count, s, h => by
    rcases loop_succ_eq_unfinished.1 h with h | ⟨s₁, ht, h⟩
    · exact Or.inl ⟨count, s, .refl _ _, h⟩
    rcases path_of_unfinished fuel h with ⟨count', s', hs, h⟩ | ⟨f, hf, hs⟩
    · exact Or.inl ⟨count', s', .head ht hs, h⟩
    · refine Or.inr ⟨Nat.rec s fun i _ => f i, rfl, fun i hi => ?_⟩
      cases i with
      | zero => subst hf; exact ht
      | succ i => rw [show count + (i + 1) = count + 1 + i by omega]; exact hs i (by omega)

/-- A position that is reached from `pos` without going beyond the input, and allowed ticks. -/
structure Within (a : Attempt) (pos : Nat) (s : Nat × Nat) : Prop where
  le : pos ≤ s.1
  room : s.1 + a.left s.1 = pos + a.left pos
  ticks : s.2 ≤ a.limits.ticks.toNat

/-- Among more places than there are positions and ticks, two are the same. -/
theorem Within.repeats {pos n : Nat} {f : Nat → Nat × Nat}
    (hn : (a.left pos + 1) * (a.limits.ticks.toNat + 1) < n) (hf : ∀ i < n, a.Within pos (f i)) :
    ∃ i j, i < j ∧ j < n ∧ f i = f j := by
  have hcard : (Finset.range (a.left pos + 1) ×ˢ Finset.range (a.limits.ticks.toNat + 1)).card <
      (Finset.range n).card := by simpa using hn
  obtain ⟨i, hi, j, hj, hne, he⟩ := Finset.exists_ne_map_eq_of_card_lt_of_maps_to hcard
    (f := fun i => ((f i).1 - pos, (f i).2)) fun i hi => by
      obtain ⟨h₁, h₂, h₃⟩ := hf i (by simpa using hi)
      simp only [Finset.coe_product, Finset.coe_range, Set.mem_prod, Set.mem_Iio]
      omega
  rw [Finset.mem_range] at hi hj
  have heq : f i = f j := by
    have hi' := (hf i hi).le
    have hj' := (hf j hj).le
    simp only [Prod.mk.injEq] at he
    exact Prod.ext (by omega) he.2
  rcases Nat.lt_or_gt_of_ne hne with h | h
  · exact ⟨i, j, h, hj, heq⟩
  · exact ⟨j, i, h, hi, heq.symm⟩

section
variable (hlen : ∀ {at_ t p}, (round at_ t).verdict = .matched p → p.len ≤ a.left at_)
include hlen

theorem Within.turn {pos count : Nat} {s s' : Nat × Nat} (hs : a.Within pos s)
    (h : a.Turn r round leave count s s') : a.Within pos s' := by
  obtain ⟨_, _, p, hp, ⟨_, rfl⟩ | ⟨_, ht, rfl⟩⟩ := h
  · obtain ⟨h₁, h₂, _⟩ := hs
    have := hlen hp
    refine ⟨?_, ?_, Nat.zero_le _⟩ <;> simp only [left] at * <;> omega
  · exact ⟨hs.le, hs.room, counted_le ht⟩

/-- **A loop that is cut off is trapped**, given as many rounds as there are positions and ticks. -/
theorem traps_of_unfinished {id pos start : Nat} {node : GraphNode} {s : Nat × Nat}
    (hpatience : (a.left pos + 1) * (a.limits.ticks.toNat + 1) ≤ a.patience) (hs : a.Within pos s)
    (h : (a.loop id node r start round leave (a.rounds r) 0 s.1 s.2).verdict = .unfinished) :
    a.Traps r round leave (fun at_ t => (round at_ t).verdict = .unfinished)
      (fun at_ t => (leave at_ t).verdict = .unfinished) 0 s := by
  rcases path_of_unfinished _ h with ⟨count, s', hs', h⟩ | ⟨f, rfl, hf⟩
  · exact ⟨count, s', hs', Or.inl h⟩
  unfold rounds at hf
  cases hmax : r.max with
  | some max =>
    -- the last of the rounds that the loop was given is beyond its upper bound
    simp only [hmax] at hf
    have := (hf max.toNat (by omega)).2.1
    simp [atMax, hmax] at this
  | none =>
    simp only [hmax, Nat.zero_add] at hf
    have hwithin : ∀ i ≤ r.min.toNat + a.patience, a.Within pos (f i) := by
      intro i hi
      induction i with
      | zero => exact hs
      | succ i ih => exact (ih (by omega)).turn hlen (hf i (by omega))
    obtain ⟨i, j, hij, hj, he⟩ := Within.repeats (f := fun i => f (r.min.toNat + i))
      (Nat.lt_succ_of_le hpatience) fun i hi => hwithin _ (by omega)
    have hpath : ∀ {i d}, i + d ≤ r.min.toNat + a.patience →
        a.Turns r round leave i (f i) (i + d) (f (i + d)) := fun {i d} hd => by
      simpa using turns_of_path (c := 0) (by simpa using hf) hd
    refine ⟨r.min.toNat + i, _, by simpa using hpath (i := 0) (d := r.min.toNat + i) (by omega),
      Or.inr ⟨hmax, by omega, r.min.toNat + j, by omega, ?_⟩⟩
    have := hpath (i := r.min.toNat + i) (d := j - i) (by omega)
    rw [show r.min.toNat + i + (j - i) = r.min.toNat + j by omega] at this
    rwa [← he] at this

end

end GraphLexer.Attempt
