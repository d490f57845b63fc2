/-
What can be read off the events of an attempt as they happen.

A `Watch` follows the visits that are open, innermost first, with the units that each of them has taken
itself and the rounds it has finished. It keeps a list of the visits that have matched, and of the moments
that the ticks of an attempt depend on (`Beat`). `Beat.since` counts the ticks after the last moment of a
kind; a limit on them is kept as long as the count keeps it (`within_concat`). Units that are taken are
credited later or not at all, and then they do not show in the ticks since the last credit
(`taken_lt_credited_iff`).

`Result.Shows` says what a watch comes to with the events of a result, and goes along with the combinators
of results.
-/
import GraphLexer.Proofs.Attempt.Result
import Mathlib.Data.List.Induction
import Mathlib.Data.List.Infix

namespace GraphLexer

/-! ## Moments -/

/-- A moment that the ticks of an attempt depend on. -/
inductive Beat where
  /-- a visit begins, or a round ends that took nothing -/
  | tick
  /-- a node takes units, and its transitions are still to be tried -/
  | taken
  /-- a node that took units comes back with a match, or a round ends that took units -/
  | credited
  deriving DecidableEq, Repr

namespace Beat

/-- The ticks after the last moment of a kind, or all of them if there is none. -/
def since (b : Beat) (beats : List Beat) : Nat :=
  beats.foldl (fun n x => if x = tick then n + 1 else if x = b then 0 else n) 0

/-- No stretch without a moment of a kind has more ticks than the limit. -/
def Within (b : Beat) (limit : Nat) (beats : List Beat) : Prop :=
  ∀ stretch, stretch <:+: beats → b ∉ stretch → stretch.count tick ≤ limit

/-- Units have been taken after the last credit. -/
def Uncredited (beats : List Beat) : Prop :=
  ∃ earlier later, beats = earlier ++ taken :: later ∧ credited ∉ later

/-- Units are taken only right after a tick. -/
def Timely (beats : List Beat) : Prop :=
  ∀ earlier later, beats = earlier ++ taken :: later → ∃ before, earlier = before ++ [tick]

variable {b x : Beat} {limit : Nat} {beats : List Beat}

theorem since_concat (b : Beat) (beats : List Beat) (x : Beat) : b.since (beats ++ [x]) =
    if x = tick then b.since beats + 1 else if x = b then 0 else b.since beats := by
  simp [since, List.foldl_append]

/-! ### Limits -/

/-- The count is the one of the longest stretch up to now. -/
theorem since_spec (hb : b ≠ tick) (beats : List Beat) :
    (∃ stretch, stretch <:+ beats ∧ b ∉ stretch ∧ stretch.count tick = b.since beats) ∧
      ∀ stretch, stretch <:+ beats → b ∉ stretch → stretch.count tick ≤ b.since beats := by
  induction beats using List.reverseRecOn with
  | nil =>
    refine ⟨⟨[], List.suffix_rfl, List.not_mem_nil, rfl⟩, fun stretch hs _ => ?_⟩
    rw [List.suffix_nil.1 hs]
    exact Nat.le_refl _
  | append_singleton beats x ih =>
    obtain ⟨⟨longest, ⟨rest, hlongest⟩, hnone, hcount⟩, hmost⟩ := ih
    rw [since_concat]
    by_cases hx : x = b
    · subst hx
      refine ⟨⟨[], List.nil_suffix, List.not_mem_nil, by simp [hb]⟩, fun stretch hs hmem => ?_⟩
      rcases List.suffix_concat_iff.1 hs with rfl | ⟨rest, rfl, -⟩
      · simp
      · simp at hmem
    · constructor
      · refine ⟨longest ++ [x], ⟨rest, by simp [← hlongest]⟩, by simp [hnone, Ne.symm hx], ?_⟩
        by_cases ht : x = tick <;> simp [hx, ht, hcount]
      · intro stretch hs hmem
        rcases List.suffix_concat_iff.1 hs with rfl | ⟨rest, rfl, hrest⟩
        · simp
        · have hle := hmost rest hrest fun h => hmem (by simp [h])
          by_cases ht : x = tick <;> simp [hx, ht, hle]

/-- A limit is kept up to a further moment if the count keeps it there. -/
theorem within_concat (hb : b ≠ tick) :
    b.Within limit (beats ++ [x]) ↔ b.Within limit beats ∧ b.since (beats ++ [x]) ≤ limit := by
  obtain ⟨⟨longest, hlongest, hnone, hcount⟩, hmost⟩ := since_spec hb (beats ++ [x])
  constructor
  · intro h
    exact ⟨fun stretch hs => h stretch (hs.trans (List.prefix_append _ _).isInfix),
      hcount ▸ h longest hlongest.isInfix hnone⟩
  · rintro ⟨h, hle⟩ stretch hs hmem
    rcases List.infix_concat_iff.1 hs with hs | hs
    · exact Nat.le_trans (hmost stretch hs hmem) hle
    · exact h stretch hs hmem

theorem since_le_of_within (hb : b ≠ tick) (h : b.Within limit beats) : b.since beats ≤ limit := by
  obtain ⟨⟨longest, hlongest, hnone, hcount⟩, -⟩ := since_spec hb beats
  exact hcount ▸ h longest hlongest.isInfix hnone

/-- A limit is kept if the count keeps it at every moment. -/
theorem within_iff : b.Within limit beats ↔ b = tick ∨ ∀ earlier ∈ beats.inits, b.since earlier ≤ limit := by
  by_cases hb : b = tick
  · subst hb
    refine iff_of_true (fun stretch _ hmem => ?_) (Or.inl rfl)
    rw [List.count_eq_zero_of_not_mem hmem]
    exact Nat.zero_le _
  · rw [or_iff_right hb]
    constructor
    · intro h earlier he
      refine since_le_of_within hb fun stretch hs => h stretch (hs.trans ?_)
      exact ((List.mem_inits _ _).1 he).isInfix
    · rintro h stretch ⟨before, after, rfl⟩ hmem
      refine Nat.le_trans ?_ (h (before ++ stretch) ((List.mem_inits _ _).2 (List.prefix_append _ _)))
      exact (since_spec hb _).2 stretch (List.suffix_append _ _) hmem

instance : Decidable (b.Within limit beats) :=
  decidable_of_iff _ within_iff.symm

/-! ### Units that are not credited -/

theorem timely_nil : Timely [] := by
  intro earlier later h
  simp at h

theorem timely_concat (hx : x ≠ taken) (h : Timely beats) : Timely (beats ++ [x]) := by
  intro earlier later he
  rcases List.eq_nil_or_concat later with rfl | ⟨later, y, rfl⟩
  · exact absurd (List.append_inj' he rfl).2 (by simpa using hx)
  · rw [List.concat_eq_append, ← List.cons_append, ← List.append_assoc] at he
    exact h earlier later (List.append_inj' he rfl).1

theorem timely_taken (h : Timely (beats ++ [tick])) : Timely (beats ++ [tick] ++ [taken]) := by
  intro earlier later he
  rcases List.eq_nil_or_concat later with rfl | ⟨later, y, rfl⟩
  · exact ⟨beats, (List.append_inj' he rfl).1.symm⟩
  · rw [List.concat_eq_append, ← List.cons_append, ← List.append_assoc] at he
    exact h earlier later (List.append_inj' he rfl).1

theorem uncredited_concat : Uncredited (beats ++ [x]) ↔
    x = taken ∨ x ≠ credited ∧ Uncredited beats := by
  constructor
  · rintro ⟨earlier, later, he, hnone⟩
    rcases List.eq_nil_or_concat later with rfl | ⟨later, y, rfl⟩
    · exact Or.inl (by simpa using (List.append_inj' he rfl).2)
    · rw [List.concat_eq_append, ← List.cons_append, ← List.append_assoc] at he
      obtain ⟨rfl, hy⟩ := List.append_inj' he rfl
      obtain rfl : x = y := by simpa using hy
      simp only [List.concat_eq_append, List.mem_append, List.mem_singleton, not_or] at hnone
      exact Or.inr ⟨Ne.symm hnone.2, earlier, later, rfl, hnone.1⟩
  · rintro (rfl | ⟨hx, earlier, later, rfl, hnone⟩)
    · exact ⟨beats, [], rfl, List.not_mem_nil⟩
    · exact ⟨earlier, later ++ [x], by simp, by simp [hnone, Ne.symm hx]⟩

/-- Fewer ticks follow the last units taken than the last credit exactly if these units are not
    credited. -/
theorem taken_lt_credited_iff (h : Timely beats) :
    taken.since beats < credited.since beats ↔ Uncredited beats := by
  constructor
  · clear h
    induction beats using List.reverseRecOn with
    | nil => simp [since]
    | append_singleton beats x ih =>
      rw [since_concat, since_concat, uncredited_concat]
      cases x with
      | tick => simpa using ih
      | taken => simp
      | credited => simp
  · rintro ⟨earlier, later, rfl, hnone⟩
    obtain ⟨before, rfl⟩ := h earlier later rfl
    clear h
    induction later using List.reverseRecOn with
    | nil => simp [since, List.foldl_append]
    | append_singleton later x ih =>
      simp only [List.mem_append, List.mem_singleton, not_or] at hnone
      have hlt := ih hnone.1
      rw [← List.cons_append, ← List.append_assoc, since_concat, since_concat]
      cases x with
      | tick => simpa using hlt
      | taken => simpa using Nat.lt_of_le_of_lt (Nat.zero_le _) hlt
      | credited => exact absurd rfl hnone.2

end Beat

/-! ## Watching -/

/-- An open visit: the units that its node has taken itself, and the rounds that it has finished. -/
structure OpenVisit where
  taken : Nat
  rounds : Nat
  deriving DecidableEq, Repr

/-- A visit that has matched, and the rounds that it has finished. -/
structure Finished where
  node : Nat
  rounds : Nat
  deriving DecidableEq, Repr

/-- What has been read off the events so far. -/
structure Watch where
  /-- the open visits, innermost first -/
  visits : List OpenVisit
  /-- what was matched by the visit that the last event has closed -/
  ended : Option Nat
  finished : List Finished
  beats : List Beat
  deriving DecidableEq, Repr

namespace Watch

/-- Nothing has happened. -/
def start : Watch :=
  ⟨[], none, [], []⟩

/-- The innermost visit. -/
def innermost (w : Watch) : OpenVisit :=
  w.visits.headD ⟨0, 0⟩

/-- The watch after a further event. A round that is finished, or for which no tick is left, follows the
    match of its target. -/
def step (w : Watch) : Event → Watch
  | .enter _ _ => ⟨⟨0, 0⟩ :: w.visits, none, w.finished, w.beats ++ [.tick]⟩
  | .accepted _ _ n =>
    ⟨{ w.innermost with taken := n } :: w.visits.tail, none, w.finished,
      w.beats ++ if 0 < n then [.taken] else []⟩
  | .repeated _ _ _ =>
    ⟨{ w.innermost with rounds := w.innermost.rounds + 1 } :: w.visits.tail, none, w.finished,
      w.beats ++ if w.ended = some 0 then [.tick] else [.credited]⟩
  | .matched id _ len =>
    ⟨w.visits.tail, some len, w.finished ++ [⟨id, w.innermost.rounds⟩],
      w.beats ++ if 0 < w.innermost.taken then [.credited] else []⟩
  | .rejected _ _ => ⟨w.visits.tail, none, w.finished, w.beats⟩
  | .failed _ _ _ =>
    ⟨w.visits.tail, none, w.finished, w.beats ++ if w.ended = some 0 then [.tick] else []⟩

/-- The watch after further events. -/
def after (w : Watch) (log : List Event) : Watch :=
  log.foldl step w

@[simp] theorem after_nil (w : Watch) : w.after [] = w := rfl

@[simp] theorem after_cons (w : Watch) (e : Event) (log : List Event) :
    w.after (e :: log) = (w.step e).after log := rfl

@[simp] theorem after_append (w : Watch) (log log' : List Event) :
    w.after (log ++ log') = (w.after log).after log' :=
  List.foldl_append

end Watch

/-! ## Results -/

namespace Result

variable {w : Watch} {Q : Watch → Nat → Verdict → Prop} {r : Result} {log : List Event}
  {onMatch : Partial → Nat → Result} {onReject : Nat → Result}

/-- With the events of a result, a watch comes to one of a kind, together with the ticks and the
    verdict. -/
def Shows (w : Watch) (Q : Watch → Nat → Verdict → Prop) (r : Result) : Prop :=
  Q (w.after r.log) r.ticks r.verdict

theorem shows_of_log (h : r.log = []) : r.Shows w Q ↔ Q w r.ticks r.verdict := by
  rw [Shows, h, Watch.after_nil]

theorem shows_after : (r.after log).Shows w Q ↔ r.Shows (w.after log) Q := by
  simp only [Shows, after, Watch.after_append]

theorem shows_bind {P : Watch → Nat → Verdict → Prop} (h : r.Shows w P)
    (matched : ∀ p t w', P w' t (.matched p) → (onMatch p t).Shows w' Q)
    (rejected : ∀ t w', P w' t .rejected → (onReject t).Shows w' Q)
    (failed : ∀ f t w', P w' t (.failed f) → Q w' t (.failed f))
    (unfinished : ∀ t w', P w' t .unfinished → Q w' t .unfinished) :
    (r.bind onMatch onReject).Shows w Q := by
  unfold Shows at h
  cases hv : r.verdict with
  | matched p => rw [bind_of_matched hv, shows_after]; exact matched p _ _ (hv ▸ h)
  | rejected => rw [bind_of_rejected hv, shows_after]; exact rejected _ _ (hv ▸ h)
  | failed f => rw [bind_of_failed hv, Shows, hv]; exact failed f _ _ (hv ▸ h)
  | unfinished => rw [bind_of_unfinished hv, Shows, hv]; exact unfinished _ _ (hv ▸ h)

theorem shows_orElse (h : r.Shows w Q)
    (rejected : ∀ t w', Q w' t .rejected → (onReject t).Shows w' Q) :
    (r.orElse onReject).Shows w Q :=
  shows_bind h (fun _ _ _ hp => (shows_of_log rfl).2 hp) rejected (fun _ _ _ hf => hf) fun _ _ hu => hu

theorem shows_mapFailure {f : Failure → Failure} (h : r.Shows w Q)
    (failed : ∀ failure t w', Q w' t (.failed failure) → Q w' t (.failed (f failure))) :
    (r.mapFailure f).Shows w Q := by
  unfold Shows at h ⊢
  rw [log_mapFailure, ticks_mapFailure]
  cases hv : r.verdict with
  | failed failure => rw [mapFailure_of_failed hv]; exact failed failure _ _ (hv ▸ h)
  | _ => rw [mapFailure_of_not_failed (by simp [hv]), hv]; rwa [hv] at h

end Result

end GraphLexer
