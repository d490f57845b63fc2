/-
A loop in closed form.

In an evaluation in which nothing visited fails and no limit is met (`Clean`), what the target and the
transitions of an invocation come to at a position does not depend on the ticks before. So a loop is
determined by two functions of positions. `firstRounds` are the rounds that can be made one after the
other; a loop `Halts` where it cannot make another one, and has an `Exit` where it may leave and its
transitions match.

One round of the loop is `goes_of_clean`. By induction on the rounds a loop comes to where it leaves or
halts (`ends_of_clean`). A greedy loop does so where it halts first, any other one where it leaves first,
and otherwise where it halts (`closedForm_of_ends`). A greedy loop tries its transitions at no other place
(`loop_of_leave_eq`).
-/
import GraphLexer.Proofs.Attempt.Clean
import GraphLexer.Proofs.Attempt.Ticks
import GraphLexer.Proofs.Graph.Builder

namespace GraphLexer

/-! ## Halting and leaving -/

namespace Repetition

def IsMax (r : Repetition) (k : Nat) : Prop :=
  r.max.map UInt32.toNat = some k

instance (r : Repetition) (k : Nat) : Decidable (r.IsMax k) :=
  inferInstanceAs (Decidable (_ = _))

def MayLeave (r : Repetition) (k : Nat) : Prop :=
  r.min.toNat ≤ k ∨ r.IsMax k

theorem atMax_iff {r : Repetition} {k : Nat} (h : ∀ i < k, ¬ r.IsMax i) :
    Attempt.atMax r k = true ↔ r.IsMax k := by
  unfold Attempt.atMax IsMax at *
  cases hmax : r.max with
  | none => simp
  | some max =>
    simp only [hmax, Option.map_some, Option.some.injEq, decide_eq_true_eq] at h ⊢
    refine ⟨fun hle => ?_, Nat.le_of_eq⟩
    rcases Nat.lt_or_eq_of_le hle with hlt | heq
    · exact absurd rfl (h _ hlt)
    · exact heq

end Repetition

/-- What the first rounds match together, each of them where the one before it ended. -/
def firstRounds (target : Nat → Verdict) (pos : Nat) : Nat → Option Partial
  | 0 => some .empty
  | k + 1 => (firstRounds target pos k).bind fun p =>
    match target (pos + p.len) with
    | .matched q => some (p.after q)
    | _ => none

theorem firstRounds_of_le {target : Nat → Verdict} {pos k : Nat} : ∀ {k' p'},
    firstRounds target pos k' = some p' → k ≤ k' → ∃ p, firstRounds target pos k = some p
  | 0, p', hp', hle => ⟨p', Nat.le_zero.1 hle ▸ hp'⟩
  | k' + 1, p', hp', hle => by
    rcases Nat.le_succ_iff.1 hle with hle | rfl
    · obtain ⟨p'', hp'', -⟩ := Option.bind_eq_some_iff.1 hp'
      exact firstRounds_of_le hp'' hle
    · exact ⟨p', hp'⟩

theorem matched_of_firstRounds {target : Nat → Verdict} {pos k : Nat} {p : Partial}
    (hp : firstRounds target pos k = some p) : ∀ {k' p'}, k < k' → firstRounds target pos k' = some p' →
      ∃ q, target (pos + p.len) = .matched q
  | k' + 1, p', hlt, hp' => by
    rw [firstRounds] at hp'
    obtain ⟨p'', hp'', hp'⟩ := Option.bind_eq_some_iff.1 hp'
    rcases Nat.lt_succ_iff_lt_or_eq.1 hlt with hlt | rfl
    · exact matched_of_firstRounds hp hlt hp''
    · rw [hp''] at hp
      cases hp
      split at hp'
      · next q hq => exact ⟨q, hq⟩
      · cases hp'

section
variable (r : Repetition) (target transitions : Nat → Verdict) (pos : Nat)

/-- A loop cannot make another round after `k` of them that match `p`. -/
def Halts (k : Nat) (p : Partial) : Prop :=
  r.IsMax k ∨ target (pos + p.len) = .rejected

def CanLeave (k : Nat) (p : Partial) : Prop :=
  r.MayLeave k ∧ ∃ q, transitions (pos + p.len) = .matched q

/-- The least number of rounds after which a loop cannot make another one. -/
structure FirstHalt (k : Nat) (p : Partial) : Prop where
  made : firstRounds target pos k = some p
  halts : Halts r target pos k p
  least : ∀ i < k, ∀ p', firstRounds target pos i = some p' → ¬ Halts r target pos i p'

structure Exit (k : Nat) (p : Partial) : Prop where
  made : firstRounds target pos k = some p
  le_max : ∀ max, r.IsMax max → k ≤ max
  can : CanLeave r transitions pos k p

/-- The least number of rounds after which a loop can leave. -/
structure FirstExit (k : Nat) (p : Partial) : Prop extends Exit r target transitions pos k p where
  least : ∀ i < k, ∀ p', ¬ Exit r target transitions pos i p'

variable {r target transitions pos} in
theorem FirstExit.unique {k k' : Nat} {p p' : Partial} (h : FirstExit r target transitions pos k p)
    (h' : FirstExit r target transitions pos k' p') : k = k' ∧ p = p' := by
  obtain rfl : k = k' := Nat.le_antisymm (Nat.le_of_not_lt fun hlt => h.least k' hlt p' h'.toExit)
    (Nat.le_of_not_lt fun hlt => h'.least k hlt p h.toExit)
  exact ⟨rfl, Option.some.inj (h.made.symm.trans h'.made)⟩

/-- The verdict of an invocation that has halted after `k` rounds, if its transitions do not match. -/
def Attempt.ending (a : Attempt) (node : GraphNode) (k : Nat) (p : Partial) : Verdict :=
  if node.commit ∧ (r.min.toNat ≤ k ∨ 0 < k ∧ ¬ r.IsMax k) then
    .failed ⟨.noTransition node.transitions.length (a.graph.describe node.step), [], [], pos + p.len⟩
  else .rejected

/-- What an invocation comes to, by the verdicts of its target and its transitions. -/
structure ClosedForm (a : Attempt) (node : GraphNode) (v : Verdict) : Prop where
  /-- a greedy loop leaves where it halts first, or not at all -/
  greedy : r.greedy → ∃ k p, FirstHalt r target pos k p ∧ ∀ m, v = .matched m ↔
    r.MayLeave k ∧ ∃ q, transitions (pos + p.len) = .matched q ∧ m = p.after q
  /-- any other loop leaves after as few rounds as it can -/
  lazy : ¬ r.greedy → ∀ m, v = .matched m ↔ ∃ k p, FirstExit r target transitions pos k p ∧
    ∃ q, transitions (pos + p.len) = .matched q ∧ m = p.after q
  /-- a loop that does not leave fails or is rejected where it halts first -/
  otherwise : (∀ m, v ≠ .matched m) → ∃ k p, FirstHalt r target pos k p ∧ v = a.ending r pos node k p

end

/-! ## One round -/

def Verdict.after (p : Partial) : Verdict → Verdict
  | .matched q => .matched (p.after q)
  | v => v

theorem Verdict.after_after (p q : Partial) (v : Verdict) : (v.after q).after p = v.after (p.after q) := by
  cases v with
  | matched m => simp [Verdict.after, Partial.after, Nat.add_assoc]
  | _ => rfl

theorem Verdict.after_empty (v : Verdict) : v.after .empty = v := by
  cases v with
  | matched m => simp [Verdict.after, Partial.after, Partial.empty]
  | _ => rfl

/-- What a loop comes to after `k` rounds that match `p`: it leaves, halts, or goes on as `rest` says
    after another round. -/
inductive Goes (a : Attempt) (node : GraphNode) (r : Repetition) (target transitions : Nat → Verdict)
    (pos k : Nat) (p : Partial) (rest : Partial → Verdict → Prop) : Verdict → Prop
  | leaves {q : Partial} : r.MayLeave k → (r.greedy → Halts r target pos k p) →
      transitions (pos + p.len) = .matched q → Goes a node r target transitions pos k p rest (.matched q)
  | halts : Halts r target pos k p → ¬ CanLeave r transitions pos k p →
      Goes a node r target transitions pos k p rest (a.ending r pos node k p)
  | again {q : Partial} {v : Verdict} : ¬ r.IsMax k → (¬ r.greedy → ¬ CanLeave r transitions pos k p) →
      target (pos + p.len) = .matched q → rest q v →
      Goes a node r target transitions pos k p rest (v.after q)

namespace Attempt

variable {a : Attempt} {node : GraphNode} {id start : Nat} {r : Repetition}
  {round leave : Nat → Nat → Result} {target onward : Nat → Verdict}

/-- What is tried at a position has the verdict of this position, unless a limit is met. -/
def ComesTo (tried : Nat → Nat → Result) (verdict : Nat → Verdict) : Prop :=
  ∀ at_ t, ¬ (tried at_ t).verdict.Limited → (tried at_ t).verdict = verdict at_

section
variable {tried : Nat → Nat → Result} {verdict : Nat → Verdict} (h : ComesTo tried verdict)
  {at_ ticks : Nat}
include h

theorem ComesTo.matched {q : Partial} (hv : (tried at_ ticks).verdict = .matched q) :
    verdict at_ = .matched q :=
  (h at_ ticks (hv ▸ stops_limited.matched q)).symm.trans hv

theorem ComesTo.rejected (hv : (tried at_ ticks).verdict = .rejected) : verdict at_ = .rejected :=
  (h at_ ticks (hv ▸ stops_limited.rejected)).symm.trans hv

end

theorem comesTo_of_tickless {tried : Nat → Nat → Result} {limits : Limits}
    (h : ∀ at_, Tickless limits (tried at_)) :
    ComesTo tried fun at_ => (tried at_ 0).verdict :=
  fun at_ t hl => ((h at_ t 0 fun _ => Nat.zero_le t).resolve_left hl).1.symm

theorem again_of_clean {p : Partial} {at_ ticks : Nat} {log : List Event} {rest : Nat → Result}
    {result : Result} (hresult : result =
      let next (ticks : Nat) : Result :=
        ((rest ticks).bind (fun q ticks => .matched (p.after q) ticks) .rejected).after log
      if 0 < p.len then next 0 else a.tick at_ ticks next) (h : result.Clean) :
    ∃ t, (rest t).Clean ∧ result.verdict = (rest t).verdict.after p := by
  have hnext : ∀ t,
      (((rest t).bind (fun q ticks => .matched (p.after q) ticks) .rejected).after log).Clean →
      (rest t).Clean ∧ ((rest t).bind (fun q ticks => .matched (p.after q) ticks) .rejected).verdict =
        (rest t).verdict.after p := fun t h => by
    refine ⟨h.of_after.of_bind, ?_⟩
    cases hv : (rest t).verdict with
    | matched q => rw [Result.bind_of_matched hv]; rfl
    | rejected => rw [Result.bind_of_rejected hv]; rfl
    | failed f => rw [Result.bind_of_failed hv, hv]; rfl
    | unfinished => rw [Result.bind_of_unfinished hv, hv]; rfl
  dsimp only at hresult
  split at hresult
  · exact ⟨0, hresult ▸ hnext 0 (hresult ▸ h)⟩
  · obtain ⟨hclean, htick⟩ := clean_of_tick (hresult ▸ h)
    exact ⟨_, (hnext _ hclean).1, by rw [hresult, htick]; exact (hnext _ hclean).2⟩

theorem giveUp_eq_ending {pos k ticks : Nat} {p : Partial} (h : r.min.toNat ≤ k ∨ 0 < k ∧ ¬ r.IsMax k) :
    (a.giveUp node (pos + p.len) ticks).verdict = a.ending r pos node k p := by
  rw [verdict_giveUp, ending]
  simp only [h, and_true]

theorem ending_ne_matched {pos k : Nat} {p m : Partial} : a.ending r pos node k p ≠ .matched m := by
  unfold ending
  split <;> simp

theorem rejected_eq_ending {pos k : Nat} {p : Partial} (hmin : ¬ r.min.toNat ≤ k)
    (hmax : 0 < k → r.IsMax k) : .rejected = a.ending r pos node k p :=
  (if_neg fun h => h.2.elim hmin fun h => h.2 (hmax h.1)).symm

theorem ending_of_max {pos k ticks : Nat} {p : Partial} (hmax : r.IsMax k) :
    (if r.min.toNat ≤ k then a.giveUp node (pos + p.len) ticks else .rejected ticks).verdict =
      a.ending r pos node k p := by
  split
  · next hmin => exact giveUp_eq_ending (Or.inl hmin)
  · next hmin => exact rejected_eq_ending hmin fun _ => hmax

theorem ending_of_needed {pos k ticks : Nat} {p : Partial} (hmin : ¬ r.min.toNat ≤ k)
    (hmax : ¬ r.IsMax k) :
    (if 0 < k then a.giveUp node (pos + p.len) ticks else .rejected ticks).verdict =
      a.ending r pos node k p := by
  split
  · next hk => exact giveUp_eq_ending (Or.inr ⟨hk, hmax⟩)
  · next hk => exact rejected_eq_ending hmin fun h => absurd h hk

section
variable (hleave : ComesTo leave onward) (htoldLeave : ∀ at_ t, (leave at_ t).Told)
include hleave

theorem not_canLeave_of_rejected {pos k ticks : Nat} {p : Partial}
    (h : (leave (pos + p.len) ticks).verdict = .rejected) : ¬ CanLeave r onward pos k p := by
  rintro ⟨-, q, hq⟩
  cases (hleave.rejected h).symm.trans hq

include htoldLeave

theorem goes_of_rejected {pos k ticks : Nat} {p : Partial} {rest : Partial → Verdict → Prop}
    (hhalts : Halts r target pos k p) (hnotMax : ¬ r.IsMax k)
    (hlazy : ¬ r.greedy → ¬ CanLeave r onward pos k p) {result : Result} (hresult : result =
      if k < r.min.toNat then
        if 0 < k then a.giveUp node (pos + p.len) ticks else .rejected ticks
      else if r.greedy then (leave (pos + p.len) ticks).orElse (a.giveUp node (pos + p.len))
      else a.giveUp node (pos + p.len) ticks) (h : result.Clean) :
    Goes a node r target onward pos k p rest result.verdict := by
  by_cases hmin : k < r.min.toNat
  · rw [hresult, if_pos hmin, ending_of_needed (Nat.not_le_of_lt hmin) hnotMax]
    exact .halts hhalts fun hcan => hcan.1.elim (Nat.not_le_of_lt hmin) hnotMax
  have hle : r.min.toNat ≤ k := Nat.le_of_not_lt hmin
  rw [if_neg hmin] at hresult
  by_cases hg : r.greedy
  · rw [if_pos hg] at hresult
    rcases (hresult ▸ h).bind_cases (htoldLeave _ _) with ⟨q, hq, -⟩ | ⟨hq, -⟩
    · rw [hresult, Result.orElse, Result.bind_of_matched hq]
      exact .leaves (Or.inl hle) (fun _ => hhalts) (hleave.matched hq)
    · rw [hresult, Result.orElse, Result.bind_of_rejected hq, Result.verdict_after,
        giveUp_eq_ending (Or.inl hle)]
      exact .halts hhalts (not_canLeave_of_rejected hleave hq)
  · rw [hresult, if_neg hg, giveUp_eq_ending (Or.inl hle)]
    exact .halts hhalts (hlazy hg)

variable (hround : ComesTo round target) (htoldRound : ∀ at_ t, (round at_ t).Told)
include hround htoldRound

/-- After some rounds a clean loop leaves, or halts, or goes on after another round. -/
theorem goes_of_clean {pos fuel count ticks : Nat} {p : Partial} (hmax : ∀ i < count, ¬ r.IsMax i)
    (h : (a.loop id node r start round leave (fuel + 1) count (pos + p.len) ticks).Clean) :
    Goes a node r target onward pos count p
      (fun q v => ∃ t, (a.loop id node r start round leave fuel (count + 1) (pos + p.len + q.len) t).Clean ∧
        (a.loop id node r start round leave fuel (count + 1) (pos + p.len + q.len) t).verdict = v)
      (a.loop id node r start round leave (fuel + 1) count (pos + p.len) ticks).verdict := by
  have hat : atMax r count = true ↔ r.IsMax count := Repetition.atMax_iff hmax
  rw [loop] at h ⊢
  generalize hearly : (if (r.min.toNat ≤ count ∧ ¬ r.greedy) ∨ atMax r count then
    leave (pos + p.len) ticks else .rejected ticks) = early at h ⊢
  have htold : early.Told := by
    rw [← hearly]
    split
    · exact htoldLeave _ _
    · exact Result.told_of_not_failed fun f hf => by cases hf
  rcases h.bind_cases htold with ⟨q, hq, -⟩ | ⟨hearlyRejected, h⟩
  · -- it leaves before another round
    rw [Result.orElse, Result.bind_of_matched hq]
    split at hearly
    · next hfirst =>
      subst hearly
      exact .leaves (hfirst.imp And.left hat.1)
        (fun hg => Or.inl (hat.1 (hfirst.resolve_left fun h => h.2 hg)))
        (hleave.matched hq)
    · rw [← hearly] at hq; cases hq
  -- its transitions were rejected if they were tried
  have hcannot : ¬ r.greedy ∨ r.IsMax count → ¬ CanLeave r onward pos count p := by
    intro hfirst hcan
    rw [if_pos (by rw [hat]; exact hcan.1.elim (fun hmin => hfirst.imp_left fun hg => ⟨hmin, hg⟩) Or.inr)]
      at hearly
    exact not_canLeave_of_rejected hleave (hearly ▸ hearlyRejected) hcan
  rw [Result.orElse, Result.bind_of_rejected hearlyRejected, Result.verdict_after]
  by_cases hm : atMax r count
  · rw [if_pos hm, ending_of_max (hat.1 hm)]
    exact .halts (Or.inl (hat.1 hm)) (hcannot (Or.inr (hat.1 hm)))
  rw [if_neg hm] at h ⊢
  have hnotMax : ¬ r.IsMax count := fun h => hm (hat.2 h)
  rcases h.bind_cases (htoldRound _ _) with ⟨q, hq, h⟩ | ⟨hrejected, h⟩
  · -- another round
    rw [Result.bind_of_matched hq, Result.verdict_after]
    obtain ⟨t, hclean, hv⟩ := again_of_clean rfl h
    rw [hv]
    exact .again hnotMax (fun hg => hcannot (Or.inl hg)) (hround.matched hq) ⟨t, hclean, rfl⟩
  rw [Result.bind_of_rejected hrejected, Result.verdict_after]
  exact goes_of_rejected hleave htoldLeave (Or.inr (hround.rejected hrejected)) hnotMax
    (fun hg => hcannot (Or.inl hg)) rfl h

/-! ## All rounds -/

/-- After a number of rounds a loop does not halt, and does not leave either. -/
def Passes (r : Repetition) (target onward : Nat → Verdict) (pos k : Nat) : Prop :=
  ∃ p, firstRounds target pos k = some p ∧ ¬ Halts r target pos k p ∧
    (¬ r.greedy → ¬ CanLeave r onward pos k p)

def Ends (a : Attempt) (node : GraphNode) (r : Repetition) (target onward : Nat → Verdict)
    (pos k : Nat) (p : Partial) (v : Verdict) : Prop :=
  (∃ q, r.MayLeave k ∧ (r.greedy → Halts r target pos k p) ∧ onward (pos + p.len) = .matched q ∧
    v = .matched (p.after q)) ∨
  Halts r target pos k p ∧ ¬ CanLeave r onward pos k p ∧ v = a.ending r pos node k p

/-- A clean loop passes on until it leaves or halts, by induction on the rounds it is given. -/
theorem ends_of_clean {pos fuel count ticks : Nat} {p : Partial}
    (hp : firstRounds target pos count = some p) (hpassed : ∀ i < count, Passes r target onward pos i)
    (h : (a.loop id node r start round leave fuel count (pos + p.len) ticks).Clean) :
    ∃ k p', firstRounds target pos k = some p' ∧ (∀ i < k, Passes r target onward pos i) ∧
      Ends a node r target onward pos k p'
        ((a.loop id node r start round leave fuel count (pos + p.len) ticks).verdict.after p) := by
  induction fuel generalizing count p ticks with
  | zero => exact absurd trivial h.unlimited
  | succ fuel ih =>
    have hmax : ∀ i < count, ¬ r.IsMax i := fun i hi hm =>
      let ⟨_, _, hhalts, _⟩ := hpassed i hi
      hhalts (Or.inl hm)
    have hgoes := goes_of_clean hleave htoldLeave hround htoldRound hmax h
    generalize (a.loop id node r start round leave (fuel + 1) count (pos + p.len) ticks).verdict = v
      at hgoes ⊢
    cases hgoes with
    | leaves hmay hhalts hq => exact ⟨count, p, hp, hpassed, Or.inl ⟨_, hmay, hhalts, hq, rfl⟩⟩
    | halts hhalts hcan =>
      refine ⟨count, p, hp, hpassed, Or.inr ⟨hhalts, hcan, ?_⟩⟩
      cases hv : a.ending r pos node count p with
      | matched m => exact absurd hv ending_ne_matched
      | _ => rfl
    | @again q v hnotMax hcan hq hrest =>
      obtain ⟨t, hclean, rfl⟩ := hrest
      have hp' : firstRounds target pos (count + 1) = some (p.after q) := by
        rw [firstRounds, hp, Option.bind_some, hq]
      have hpass : Passes r target onward pos count := by
        refine ⟨p, hp, ?_, hcan⟩
        rintro (hm | hr)
        · exact hnotMax hm
        · cases hq.symm.trans hr
      have hpassed' : ∀ i < count + 1, Passes r target onward pos i := fun i hi =>
        (Nat.lt_succ_iff_lt_or_eq.1 hi).elim (hpassed i) fun h => h ▸ hpass
      rw [Nat.add_assoc] at hclean ⊢
      rw [Verdict.after_after]
      exact ih hp' hpassed' hclean

end

/-! ## The closed form -/

section
variable {pos k : Nat} {p : Partial} {v : Verdict} (hp : firstRounds target pos k = some p)
  (hpassed : ∀ i < k, Passes r target onward pos i)
include hp hpassed

theorem firstHalt_of_halts (hhalts : Halts r target pos k p) : FirstHalt r target pos k p where
  made := hp
  halts := hhalts
  least _ hi p' hp' := by
    obtain ⟨p'', hp'', hnot, -⟩ := hpassed _ hi
    cases hp'.symm.trans hp''
    exact hnot

omit hp in
theorem not_exit_of_passes (hg : ¬ r.greedy) {i : Nat} (hi : i < k) {p' : Partial} :
    ¬ Exit r target onward pos i p' := by
  intro hexit
  obtain ⟨p'', hp'', -, hcan⟩ := hpassed i hi
  rw [hexit.made] at hp''
  cases hp''
  exact hcan hg hexit.can

theorem firstExit_of_canLeave (hg : ¬ r.greedy) (hcan : CanLeave r onward pos k p) :
    FirstExit r target onward pos k p where
  made := hp
  le_max max hmax := Nat.le_of_not_lt fun hlt =>
    let ⟨_, _, hhalts, _⟩ := hpassed max hlt
    hhalts (Or.inl hmax)
  can := hcan
  least _ hi _ := not_exit_of_passes hpassed hg hi

theorem not_exit_of_halts (hg : ¬ r.greedy) (hhalts : Halts r target pos k p)
    (hcan : ¬ CanLeave r onward pos k p) {i : Nat} {p' : Partial} :
    ¬ Exit r target onward pos i p' := by
  intro hexit
  rcases Nat.lt_trichotomy i k with hlt | rfl | hlt
  · exact not_exit_of_passes hpassed hg hlt hexit
  · rw [hexit.made] at hp
    cases hp
    exact hcan hexit.can
  · rcases hhalts with hmax | hrejected
    · exact Nat.not_lt_of_le (hexit.le_max k hmax) hlt
    · obtain ⟨q, hq⟩ := matched_of_firstRounds hp hlt hexit.made
      cases hrejected.symm.trans hq

theorem closedForm_of_ends (hends : Ends a node r target onward pos k p v) :
    ClosedForm r target onward pos a node v where
  greedy hg := by
    rcases hends with ⟨q, hmay, hhalts, hq, rfl⟩ | ⟨hhalts, hcan, rfl⟩
    · refine ⟨k, p, firstHalt_of_halts hp hpassed (hhalts hg), fun m => ⟨fun h => ?_, ?_⟩⟩
      · cases h; exact ⟨hmay, q, hq, rfl⟩
      · rintro ⟨-, q', hq', rfl⟩
        cases hq.symm.trans hq'
        rfl
    · refine ⟨k, p, firstHalt_of_halts hp hpassed hhalts, fun m => ⟨fun h => ?_, ?_⟩⟩
      · exact absurd h ending_ne_matched
      · rintro ⟨hmay, q, hq, -⟩
        exact absurd ⟨hmay, q, hq⟩ hcan
  lazy hg m := by
    rcases hends with ⟨q, hmay, -, hq, rfl⟩ | ⟨hhalts, hcan, rfl⟩
    · have hfirst := firstExit_of_canLeave hp hpassed hg ⟨hmay, q, hq⟩
      refine ⟨fun h => ?_, ?_⟩
      · cases h; exact ⟨k, p, hfirst, q, hq, rfl⟩
      · rintro ⟨k', p', hfirst', q', hq', rfl⟩
        obtain ⟨rfl, rfl⟩ := hfirst.unique hfirst'
        cases hq.symm.trans hq'
        rfl
    · refine ⟨fun h => absurd h ending_ne_matched, ?_⟩
      rintro ⟨k', p', hfirst, -⟩
      exact absurd hfirst.toExit (not_exit_of_halts hp hpassed hg hhalts hcan)
  otherwise hm := by
    rcases hends with ⟨q, -, -, -, rfl⟩ | ⟨hhalts, -, rfl⟩
    · exact absurd rfl (hm _)
    · exact ⟨k, p, firstHalt_of_halts hp hpassed hhalts, rfl⟩

end

/-! ## Greedy loops leave at one place -/

section
variable (hround : ComesTo round target) (hg : r.greedy)
include hround hg

/-- The transitions of a greedy loop are tried only where it halts first: elsewhere they may be others. -/
theorem loop_of_leave_eq {leave' : Nat → Nat → Result} {pos k : Nat} {p : Partial}
    (hfirst : FirstHalt r target pos k p)
    (heq : ∀ t, leave' (pos + p.len) t = leave (pos + p.len) t) :
    ∀ {fuel count p' ticks}, firstRounds target pos count = some p' → count ≤ k →
      a.loop id node r start round leave' fuel count (pos + p'.len) ticks =
        a.loop id node r start round leave fuel count (pos + p'.len) ticks
  | 0, _, _, _, _, _ => rfl
  | fuel + 1, count, p', ticks, hp', hle => by
    have hat : atMax r count = true ↔ r.IsMax count := Repetition.atMax_iff fun i hi hmax => by
      obtain ⟨p'', hp''⟩ := firstRounds_of_le hfirst.made (Nat.le_trans (Nat.le_of_lt hi) hle)
      exact hfirst.least i (Nat.lt_of_lt_of_le hi hle) p'' hp'' (Or.inl hmax)
    -- before it halts the loop goes on, and where it halts the transitions are the same
    have hsame : Halts r target pos count p' →
        leave' (pos + p'.len) = leave (pos + p'.len) := fun hhalts => by
      rcases Nat.lt_or_eq_of_le hle with hlt | rfl
      · exact absurd hhalts (hfirst.least count hlt p' hp')
      · cases hp'.symm.trans hfirst.made
        exact funext heq
    have hrest : ∀ q, target (pos + p'.len) = .matched q → ¬ r.IsMax count →
        a.loop id node r start round leave' fuel (count + 1) (pos + p'.len + q.len) =
          a.loop id node r start round leave fuel (count + 1) (pos + p'.len + q.len) := fun q hq hmax => by
      have hlt : count < k := Nat.lt_of_le_of_ne hle fun h => by
        subst h
        cases hp'.symm.trans hfirst.made
        rcases hfirst.halts with h | h
        · exact hmax h
        · cases hq.symm.trans h
      have hp'' : firstRounds target pos (count + 1) = some (p'.after q) := by
        rw [firstRounds, hp', Option.bind_some, hq]
      funext t
      rw [Nat.add_assoc]
      exact loop_of_leave_eq hfirst heq hp'' hlt
    have hearly : (if (r.min.toNat ≤ count ∧ ¬ r.greedy) ∨ atMax r count then leave' (pos + p'.len) ticks
        else .rejected ticks) = if (r.min.toNat ≤ count ∧ ¬ r.greedy) ∨ atMax r count then
          leave (pos + p'.len) ticks else .rejected ticks := by
      split
      · next h => rw [hsame (Or.inl (hat.1 (h.resolve_left fun h => h.2 hg)))]
      · rfl
    rw [loop, loop, hearly]
    refine Result.bind_congr (fun _ _ _ => rfl) fun _ t => ?_
    by_cases hm : atMax r count
    · rw [if_pos hm, if_pos hm]
    rw [if_neg hm, if_neg hm]
    refine Result.bind_congr (fun q hq t => ?_) fun hr t => ?_
    · rw [hrest q (hround.matched hq) fun h => hm (hat.2 h)]
    · rw [hsame (Or.inr (hround.rejected hr))]

end

/-- **The closed form of a loop.** -/
theorem perform_closedForm {levels pos ticks target entry : Nat} (hn : a.graph.node? id = some node)
    (hstep : node.step = .subState target r) (he : a.graph.entryOf target = some entry)
    (h : (a.perform (a.visit levels) id pos ticks).Clean) :
    ClosedForm r (fun at_ => (a.visit levels entry at_ 0).verdict)
        (fun at_ => (transitions (a.visit levels) node at_ 0).verdict) pos a node
        (a.perform (a.visit levels) id pos ticks).verdict ∧
      (r.greedy → ∀ k p, FirstHalt r (fun at_ => (a.visit levels entry at_ 0).verdict) pos k p →
        ∀ leave, (∀ t, leave (pos + p.len) t = transitions (a.visit levels) node (pos + p.len) t) →
          a.loop id node r pos (a.visit levels entry) leave (a.rounds r) 0 pos ticks =
            a.perform (a.visit levels) id pos ticks) := by
  rw [perform_subState hn hstep he] at h ⊢
  have hround := comesTo_of_tickless (tickless_visit (a := a) levels entry)
  refine ⟨?_, fun hg k p hfirst leave heq => ?_⟩
  · have hleave : ComesTo (transitions (a.visit levels) node)
        fun at_ => (transitions (a.visit levels) node at_ 0).verdict :=
      comesTo_of_tickless fun _ => tickless_transitions (tickless_visit levels)
    obtain ⟨k, p, hp, hpassed, hends⟩ := ends_of_clean (p := .empty) hleave
      (told_transitions (told_visit levels)) hround (told_visit levels entry) rfl
      (fun _ hi => absurd hi (Nat.not_lt_zero _)) h
    rw [Verdict.after_empty] at hends
    exact closedForm_of_ends hp hpassed hends
  · have hnone : firstRounds (fun at_ => (a.visit levels entry at_ 0).verdict) pos 0 = some .empty := rfl
    exact loop_of_leave_eq hround hg hfirst heq hnone (Nat.zero_le k)

/-- The letters in a pair of brackets, of which there are two. -/
theorem letters_closedForm : ∃ graph node r, Graph.ofGrammar Evaluator.brackets = .ok graph ∧
    graph.node? 3 = some node ∧ node.step = .subState 1 r ∧
    (∃ p, ((mk graph (.ofText "(ab)") .default 4).perform
      ((mk graph (.ofText "(ab)") .default 4).visit 9) 3 1 0).verdict = .matched p ∧ p.len = 3) ∧
    ClosedForm r (fun at_ => ((mk graph (.ofText "(ab)") .default 4).visit 9 5 at_ 0).verdict)
      (fun at_ => (transitions ((mk graph (.ofText "(ab)") .default 4).visit 9) node at_ 0).verdict) 1
      (mk graph (.ofText "(ab)") .default 4) node ((mk graph (.ofText "(ab)") .default 4).perform
        ((mk graph (.ofText "(ab)") .default 4).visit 9) 3 1 0).verdict := by
  refine ⟨_, _, _, Graph.ofGrammar_of_layout rfl, rfl, rfl, ⟨_, rfl, rfl⟩,
    (perform_closedForm rfl rfl rfl ⟨?_, ?_⟩).1⟩
  · exact stops_limited.matched _
  · decide +kernel

def items : Grammar where
  root := "R"
  states := [
    .plain (.state "R") [.committed (.subState "Item" ⟨true, 2, some 3⟩) []],
    .plain (.state "Item") [.plain (.literal "a") []]]
  named := by simp [Tree.plain, Tree.stateName?]
  distinct := by simp [Tree.plain, Tree.committed, Tree.stateNames, Tree.stateName?]

/-- **A committed loop whose first round is needed and rejected does not fail.** -/
theorem needed_round_rejected : ∃ graph node, Graph.ofGrammar items = .ok graph ∧
    graph.node? 1 = some node ∧ node.commit = true ∧
    ((mk graph (.ofText "c") .default 4).perform
      ((mk graph (.ofText "c") .default 4).visit 9) 1 0 0).Clean ∧
    ((mk graph (.ofText "c") .default 4).perform
      ((mk graph (.ofText "c") .default 4).visit 9) 1 0 0).verdict = .rejected ∧
    (Evaluator.ofGraph graph).evaluate "c" = some .noMatch := by
  refine ⟨_, _, Graph.ofGrammar_of_layout rfl, rfl, rfl, ⟨?_, ?_⟩, rfl, rfl⟩
  · exact stops_limited.rejected
  · decide +kernel

end Attempt

end GraphLexer
