/-
Where a match or a rejection comes from.

For each part of an attempt, what must have been visited if it matches, and what if it is rejected. A
match of a loop is one of its transitions, or a round with a match of what is left of the loop after it
(`matched_of_loop`).
-/
import GraphLexer.Proofs.Attempt.Perform
import GraphLexer.Proofs.Attempt.Result

namespace GraphLexer.Attempt

variable {a : Attempt} {node : GraphNode} {pos ticks : Nat} {m : Partial}

theorem matched_of_tick {next : Nat → Result} (h : (a.tick pos ticks next).verdict = .matched m) :
    (next (counted ticks)).verdict = .matched m := by
  unfold tick at h
  split at h
  · cases h
  · exact h

theorem rejected_of_tick {next : Nat → Result} (h : (a.tick pos ticks next).verdict = .rejected) :
    (next (counted ticks)).verdict = .rejected := by
  unfold tick at h
  split at h
  · cases h
  · exact h

theorem giveUp_ne_matched : (a.giveUp node pos ticks).verdict ≠ .matched m := by
  unfold giveUp noMatch
  split <;> simp [Result.failed, Result.rejected]

theorem commit_of_giveUp (h : (a.giveUp node pos ticks).verdict = .rejected) : node.commit = false := by
  unfold giveUp noMatch at h
  split at h
  · cases h
  · next hc => simpa using hc

/-! ## Transitions -/

theorem matched_of_firstOf {go : Nat → Nat → Result} : ∀ {ids : List Nat} {ticks : Nat},
    (firstOf go ids ticks).verdict = .matched m → ∃ id ∈ ids, ∃ t, (go id t).verdict = .matched m
  | id :: ids, ticks, h => by
    rcases Result.orElse_eq_matched.1 h with h | ⟨-, h⟩
    · exact ⟨id, by simp, ticks, h⟩
    · obtain ⟨next, hmem, h⟩ := matched_of_firstOf h
      exact ⟨next, by simp [hmem], h⟩

theorem rejected_of_firstOf {go : Nat → Nat → Result} : ∀ {ids : List Nat} {ticks : Nat},
    (firstOf go ids ticks).verdict = .rejected → ∀ id ∈ ids, ∃ t, (go id t).verdict = .rejected
  | id :: ids, ticks, h, next, hmem => by
    obtain ⟨hfirst, h⟩ := Result.orElse_eq_rejected.1 h
    rcases List.mem_cons.1 hmem with rfl | hmem
    · exact ⟨ticks, hfirst⟩
    · exact rejected_of_firstOf h next hmem

section
variable {go : Nat → Nat → Nat → Result}

theorem matched_of_transitions (h : (transitions go node pos ticks).verdict = .matched m) :
    (node.transitions = [] ∧ m = .empty) ∨
      ∃ next ∈ node.transitions, ∃ t, (go next pos t).verdict = .matched m := by
  unfold transitions at h
  split at h
  · next hempty => cases h; exact Or.inl ⟨by simpa using hempty, rfl⟩
  · exact Or.inr (matched_of_firstOf (Result.mapFailure_eq_matched.1 h))

theorem rejected_of_transitions (h : (transitions go node pos ticks).verdict = .rejected) :
    node.transitions ≠ [] ∧ ∀ next ∈ node.transitions, ∃ t, (go next pos t).verdict = .rejected := by
  unfold transitions at h
  split at h
  · cases h
  · next hne =>
    exact ⟨by simpa using hne, rejected_of_firstOf (Result.mapFailure_eq_rejected.1 h)⟩

theorem matched_of_advance {id n : Nat} (h : (a.advance go id node pos n ticks).verdict = .matched m) :
    ∃ p, (transitions go node (pos + n) ticks).verdict = .matched p ∧ m = ⟨p.len + n, p.tags⟩ := by
  unfold advance at h
  rcases Result.bind_eq_matched.1 h with ⟨p, hp, h⟩ | ⟨-, h⟩
  · cases h; exact ⟨p, hp, rfl⟩
  · exact absurd h giveUp_ne_matched

theorem rejected_of_advance {id n : Nat} (h : (a.advance go id node pos n ticks).verdict = .rejected) :
    (transitions go node (pos + n) ticks).verdict = .rejected ∧ node.commit = false := by
  unfold advance at h
  rcases Result.bind_eq_rejected.1 h with ⟨p, -, h⟩ | ⟨hp, h⟩
  · cases h
  · exact ⟨hp, commit_of_giveUp h⟩

end

/-! ## Loops -/

section
variable {id start fuel count at_ : Nat} {r : Repetition} {round leave : Nat → Nat → Result}

/-- A match of what is left of a loop after a round. -/
theorem matched_of_again {p : Partial} {log : List Event} {rest : Nat → Result}
    (h : (let next (ticks : Nat) : Result :=
        ((rest ticks).bind (fun q ticks => .matched (p.after q) ticks) .rejected).after log
      if 0 < p.len then next 0 else a.tick at_ ticks next).verdict = .matched m) :
    ∃ q t, (rest t).verdict = .matched q ∧ m = p.after q := by
  have hnext : ∀ {t}, (((rest t).bind (fun q ticks => .matched (p.after q) ticks) .rejected).after
      log).verdict = .matched m → ∃ q t, (rest t).verdict = .matched q ∧ m = p.after q := fun {t} h => by
    rcases Result.bind_eq_matched.1 h with ⟨q, hq, h⟩ | ⟨-, h⟩
    · cases h; exact ⟨q, t, hq, rfl⟩
    · cases h
  dsimp only at h
  split at h
  · exact hnext h
  · exact hnext (matched_of_tick h)

/-- A rejection of what is left of a loop after a round. -/
theorem rejected_of_again {p : Partial} {log : List Event} {rest : Nat → Result}
    (h : (let next (ticks : Nat) : Result :=
        ((rest ticks).bind (fun q ticks => .matched (p.after q) ticks) .rejected).after log
      if 0 < p.len then next 0 else a.tick at_ ticks next).verdict = .rejected) :
    ∃ t, (rest t).verdict = .rejected := by
  have hnext : ∀ {t}, (((rest t).bind (fun q ticks => .matched (p.after q) ticks) .rejected).after
      log).verdict = .rejected → ∃ t, (rest t).verdict = .rejected := fun {t} h => by
    rcases Result.bind_eq_rejected.1 h with ⟨q, -, h⟩ | ⟨hr, -⟩
    · cases h
    · exact ⟨t, hr⟩
  dsimp only at h
  split at h
  · exact hnext h
  · exact hnext (rejected_of_tick h)

/-- A match of a loop is one of its transitions, or begins with a round. -/
theorem matched_of_loop
    (h : (a.loop id node r start round leave (fuel + 1) count at_ ticks).verdict = .matched m) :
    ((r.min.toNat ≤ count ∨ atMax r count) ∧ ∃ t, (leave at_ t).verdict = .matched m) ∨
      ¬ atMax r count ∧ ∃ p t q t', (round at_ t).verdict = .matched p ∧
        (a.loop id node r start round leave fuel (count + 1) (at_ + p.len) t').verdict = .matched q ∧
        m = p.after q := by
  rw [loop] at h
  rcases Result.orElse_eq_matched.1 h with h | ⟨-, h⟩
  · split at h
    · next hearly => exact Or.inl ⟨hearly.imp_left And.left, _, h⟩
    · cases h
  split at h
  · split at h
    · exact absurd h giveUp_ne_matched
    · cases h
  next hmax =>
  rcases Result.bind_eq_matched.1 h with ⟨p, hp, h⟩ | ⟨-, h⟩
  · obtain ⟨q, t, hq⟩ := matched_of_again h
    exact Or.inr ⟨hmax, p, _, q, t, hp, hq⟩
  · split at h
    · split at h
      · exact absurd h giveUp_ne_matched
      · cases h
    · next hmin =>
      split at h
      · rcases Result.orElse_eq_matched.1 h with h | ⟨-, h⟩
        · exact Or.inl ⟨Or.inl (Nat.le_of_not_lt hmin), _, h⟩
        · exact absurd h giveUp_ne_matched
      · exact absurd h giveUp_ne_matched

/-- A committed loop is rejected only where its first round is, or where it has made as many rounds as
    it may and fewer than it must. -/
theorem rejected_of_loop (hc : node.commit = true)
    (h : (a.loop id node r start round leave (fuel + 1) count at_ ticks).verdict = .rejected) :
    (atMax r count ∧ count < r.min.toNat) ∨
      (count = 0 ∧ 0 < r.min.toNat ∧ ∃ t, (round at_ t).verdict = .rejected) ∨
      ∃ at' t, (a.loop id node r start round leave fuel (count + 1) at' t).verdict = .rejected := by
  have hgiveUp : ∀ {t}, (a.giveUp node at_ t).verdict ≠ .rejected := fun h => by
    rw [commit_of_giveUp h] at hc
    cases hc
  rw [loop] at h
  obtain ⟨-, h⟩ := Result.orElse_eq_rejected.1 h
  split at h
  · next hmax =>
    split at h
    · exact absurd h hgiveUp
    · next hmin => exact Or.inl ⟨hmax, Nat.lt_of_not_le hmin⟩
  rcases Result.bind_eq_rejected.1 h with ⟨p, -, h⟩ | ⟨hr, h⟩
  · obtain ⟨t, hq⟩ := rejected_of_again h
    exact Or.inr (Or.inr ⟨_, t, hq⟩)
  · split at h
    · next hmin =>
      split at h
      · exact absurd h hgiveUp
      · next hcount => exact Or.inr (Or.inl ⟨by omega, by omega, _, hr⟩)
    · split at h
      · exact absurd (Result.orElse_eq_rejected.1 h).2 hgiveUp
      · exact absurd h hgiveUp

end

/-! ## Visits -/

theorem matched_of_visit {levels id : Nat} (h : (a.visit levels id pos ticks).verdict = .matched m) :
    ∃ below t, levels = below + 1 ∧ (a.perform (a.visit below) id pos t).verdict = .matched m := by
  cases levels with
  | zero =>
    rw [visit, Result.verdict_visited] at h
    cases matched_of_tick h
  | succ below =>
    rw [visit, Result.verdict_visited] at h
    exact ⟨below, _, rfl, matched_of_tick h⟩

theorem rejected_of_visit {levels id : Nat} (h : (a.visit levels id pos ticks).verdict = .rejected) :
    ∃ below t, levels = below + 1 ∧ (a.perform (a.visit below) id pos t).verdict = .rejected := by
  cases levels with
  | zero =>
    rw [visit, Result.verdict_visited] at h
    cases rejected_of_tick h
  | succ below =>
    rw [visit, Result.verdict_visited] at h
    exact ⟨below, _, rfl, rejected_of_tick h⟩

end GraphLexer.Attempt
