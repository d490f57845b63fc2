/-
What the ticks of an attempt count, and with how many rounds its invocations match.

With the events of an attempt before it, a watch reads the ticks of the attempt: under a limit that can
be exceeded, they are those since the last credit (`Reads`). A visit that begins and a round that took
nothing add one. A node that took units sets them back when it comes back with a match, and so does a
round that took units; while the transitions of the node are tried, what it took plays no part. An attempt
that fails on its ticks therefore stops at the first tick beyond the limit since a credit (`Stopped`).

What a visit comes to is `Closed`, what is tried within a visit is `Amid`, and the rounds of an invocation
are `Looped`. There is one lemma for each part of an attempt, and then an induction on the levels to spare
(`closed_visit`).
-/
import GraphLexer.Proofs.Attempt.Rounds
import GraphLexer.Proofs.Attempt.Watch

namespace GraphLexer

/-- A number of rounds within the upper bound after which a loop may leave. -/
def Repetition.Fits (r : Repetition) (k : Nat) : Prop :=
  r.MayLeave k ∧ ∀ max, r.IsMax max → k ≤ max

/-- If the visit that has matched is an invocation, its number of rounds fits. -/
def Graph.Fits (g : Graph) (m : Finished) : Prop :=
  ∀ node target r, g.node? m.node = some node → node.step = .subState target r → r.Fits m.rounds

theorem Graph.fits_of_step {g : Graph} {id k : Nat} {node : GraphNode} (hn : g.node? id = some node)
    (h : ∀ target r, node.step ≠ .subState target r) : g.Fits ⟨id, k⟩ := by
  intro node' target r hn' hstep
  rw [hn] at hn'
  cases hn'
  exact absurd hstep (h target r)

theorem Graph.fits_of_subState {g : Graph} {id k target : Nat} {node : GraphNode} {r : Repetition}
    (hn : g.node? id = some node) (hstep : node.step = .subState target r) (h : r.Fits k) :
    g.Fits ⟨id, k⟩ := by
  intro node' target' r' hn' hstep'
  rw [hn] at hn'
  cases hn'
  rw [hstep] at hstep'
  cases hstep'
  exact h

/-! ## What a watch reads -/

namespace Watch

/-- What holds of every watch over an attempt. -/
structure Sound (a : Attempt) (w : Watch) : Prop where
  timely : Beat.Timely w.beats
  fits : ∀ m ∈ w.finished, a.graph.Fits m

/-- The ticks since a credit have not exceeded the limit, if it can be exceeded. -/
structure InTime (a : Attempt) (w : Watch) : Prop extends Sound a w where
  within : a.limits.Binds → Beat.credited.Within a.limits.ticks.toNat w.beats

/-- The attempt goes on with a number of ticks. -/
structure Reads (a : Attempt) (w : Watch) (ticks : Nat) : Prop extends InTime a w where
  since : a.limits.Binds → Beat.credited.since w.beats = ticks

/-- The attempt has failed: on its ticks, one beyond the limit, or for another cause in time. -/
structure Stopped (a : Attempt) (w : Watch) (cause : Cause) : Prop extends Sound a w where
  stops : (cause = .ticks a.limits.ticks.toNat ∧ a.limits.Binds ∧
      Beat.credited.since w.beats = a.limits.ticks.toNat + 1) ∨
    (∀ limit, cause ≠ .ticks limit) ∧
      (a.limits.Binds → Beat.credited.Within a.limits.ticks.toNat w.beats)

variable {a : Attempt} {w w' : Watch} {ticks : Nat} {cause : Cause}

theorem reads_start : start.Reads a 0 where
  timely := Beat.timely_nil
  fits m hm := absurd hm List.not_mem_nil
  within _ stretch hs _ := by
    obtain rfl : stretch = [] := List.infix_nil.1 hs
    exact Nat.zero_le _
  since _ := rfl

namespace Reads

variable (h : w.Reads a ticks)
include h

theorem since_le (hb : a.limits.Binds) : Beat.credited.since w.beats ≤ a.limits.ticks.toNat :=
  Beat.since_le_of_within (by decide) (h.within hb)

theorem stopped (hb : w'.beats = w.beats) (hf : w'.finished = w.finished)
    (hcause : ∀ limit, cause ≠ .ticks limit) : w'.Stopped a cause where
  timely := hb ▸ h.timely
  fits := hf ▸ h.fits
  stops := Or.inr ⟨hcause, hb ▸ h.within⟩

variable (hf : ∀ m ∈ w'.finished, a.graph.Fits m)
include hf

theorem same (hb : w'.beats = w.beats) : w'.Reads a ticks where
  timely := hb ▸ h.timely
  fits := hf
  within := hb ▸ h.within
  since := hb ▸ h.since

theorem further {x : Beat} {n : Nat} (hb : w'.beats = w.beats ++ [x]) (ht : Beat.Timely w'.beats)
    (hn : a.limits.Binds → Beat.credited.since w'.beats = n ∧ n ≤ a.limits.ticks.toNat) :
    w'.Reads a n where
  timely := ht
  fits := hf
  within hbinds := by
    obtain ⟨rfl, hle⟩ := hn hbinds
    rw [hb] at hle ⊢
    exact (Beat.within_concat (by decide)).2 ⟨h.within hbinds, hle⟩
  since hbinds := (hn hbinds).1

theorem tick (hb : w'.beats = w.beats ++ [.tick]) (hle : ¬ a.limits.Exceeded ticks) :
    w'.Reads a (Attempt.counted ticks) := by
  refine h.further hf hb (hb ▸ Beat.timely_concat (by decide) h.timely) fun hbinds =>
    ⟨?_, Attempt.counted_le hle⟩
  rw [hb, Beat.since_concat, if_pos rfl, h.since hbinds, Attempt.counted_of_binds hbinds hle]

theorem credit (hb : w'.beats = w.beats ++ [.credited]) : w'.Reads a 0 := by
  refine h.further hf hb (hb ▸ Beat.timely_concat (by decide) h.timely) fun _ => ⟨?_, Nat.zero_le _⟩
  rw [hb, Beat.since_concat, if_neg (by decide), if_pos rfl]

theorem take (hb : w'.beats = w.beats ++ [.taken]) (ht : ∃ beats, w.beats = beats ++ [.tick]) :
    w'.Reads a ticks := by
  obtain ⟨beats, ht⟩ := ht
  refine h.further hf hb ?_ fun hbinds => ⟨?_, h.since hbinds ▸ h.since_le hbinds⟩
  · rw [hb, ht]
    exact Beat.timely_taken (ht ▸ h.timely)
  · rw [hb, Beat.since_concat, if_neg (by decide), if_neg (by decide), h.since hbinds]

theorem exhausted (hb : w'.beats = w.beats ++ [.tick]) (hlt : a.limits.Exceeded ticks) :
    w'.Stopped a (.ticks a.limits.ticks.toNat) where
  timely := hb ▸ Beat.timely_concat (by decide) h.timely
  fits := hf
  stops := by
    refine Or.inl ⟨rfl, hlt.1, ?_⟩
    have hle := h.since_le hlt.1
    rw [h.since hlt.1] at hle
    rw [hb, Beat.since_concat, if_pos rfl, h.since hlt.1]
    exact Nat.le_antisymm (Nat.succ_le_succ hle) hlt.2

end Reads

theorem Stopped.same (h : w.Stopped a cause) (hb : w'.beats = w.beats)
    (hf : w'.finished = w.finished) : w'.Stopped a cause where
  timely := hb ▸ h.timely
  fits := hf ▸ h.fits
  stops := hb ▸ h.stops

/-! ## Parts of an attempt -/

/-- What is left after a visit that began with some open visits. -/
def Closed (a : Attempt) (visits : List OpenVisit) (w : Watch) (ticks : Nat) : Verdict → Prop
  | .matched p => w.Reads a ticks ∧ w.visits = visits ∧ w.ended = some p.len
  | .rejected => w.Reads a ticks ∧ w.visits = visits ∧ w.ended = none
  | .failed f => w.Stopped a f.cause ∧ w.ended = none
  | .unfinished => w.InTime a

/-- What is left within a visit, the innermost of the open ones. A failure is looked at after the visit
    is closed, since only then a round counts that there was no tick for. -/
def Amid (a : Attempt) (visits : List OpenVisit) (w : Watch) (ticks : Nat) : Verdict → Prop
  | .matched _ => w.Reads a ticks ∧ w.visits = visits
  | .rejected => w.Reads a ticks ∧ w.visits = visits ∧ w.ended = none
  | .failed f => ∀ id pos kind, (w.step (.failed id pos kind)).Stopped a f.cause
  | .unfinished => w.InTime a

/-- What is left after the rounds of an invocation, which match with a number of rounds that fits. -/
def Looped (a : Attempt) (r : Repetition) (below : List OpenVisit) (w : Watch) (ticks : Nat)
    (v : Verdict) : Prop :=
  ∃ k, Amid a (⟨0, k⟩ :: below) w ticks v ∧ ∀ p, v = .matched p → r.Fits k

/-- What is left within a visit where nothing has matched. -/
def Missed (a : Attempt) (visits : List OpenVisit) (w : Watch) (ticks : Nat) (v : Verdict) : Prop :=
  Amid a visits w ticks v ∧ ∀ p, v ≠ .matched p

/-- What is left at the end of a visit, before the event that closes it. -/
def AtEnd (a : Attempt) (id pos : Nat) (below : List OpenVisit) (w : Watch) (ticks : Nat)
    (v : Verdict) : Prop :=
  Closed a below (w.after (Result.closing id pos v)) ticks v

/-- A visit has just begun, and its tick has been counted. -/
structure Opened (a : Attempt) (below : List OpenVisit) (w : Watch) (ticks : Nat) : Prop
    extends Reads a w ticks where
  visits_eq : w.visits = ⟨0, 0⟩ :: below
  ended_eq : w.ended = none
  beats_eq : ∃ beats, w.beats = beats ++ [.tick]

variable {v : OpenVisit} {visits below : List OpenVisit} {id pos : Nat} {verdict : Verdict}

theorem Closed.amid : ∀ {verdict}, Closed a visits w ticks verdict → Amid a visits w ticks verdict
  | .matched _, h => ⟨h.1, h.2.1⟩
  | .rejected, h => h
  | .failed _, h => fun _ _ _ => h.1.same (by simp [step, h.2]) rfl
  | .unfinished, h => h

/-- A node that took units sets the ticks back when it matches. -/
theorem Reads.atEnd_matched (h : w.Reads a ticks) (hv : w.visits = v :: below)
    (hf : a.graph.Fits ⟨id, v.rounds⟩) (p : Partial) :
    AtEnd a id pos below w (if 0 < v.taken then 0 else ticks) (.matched p) := by
  have hinner : w.innermost = v := by rw [innermost, hv]; rfl
  have hfits : ∀ m ∈ (w.step (.matched id pos p.len)).finished, a.graph.Fits m := by
    intro m hm
    simp only [step, hinner, List.mem_append, List.mem_singleton] at hm
    rcases hm with hm | rfl
    · exact h.fits m hm
    · exact hf
  have hread : (w.step (.matched id pos p.len)).Reads a (if 0 < v.taken then 0 else ticks) := by
    split
    · next ht => exact h.credit hfits (by simp [step, hinner, ht])
    · next ht => exact h.same hfits (by simp [step, hinner, ht])
  exact ⟨hread, by simp [Result.closing, step, hv], rfl⟩

theorem atEnd_of_amid (h : Amid a (v :: below) w ticks verdict)
    (hm : ∀ p, verdict = .matched p → v.taken = 0 ∧ a.graph.Fits ⟨id, v.rounds⟩) :
    AtEnd a id pos below w ticks verdict := by
  cases verdict with
  | matched p =>
    obtain ⟨hzero, hf⟩ := hm p rfl
    have hend : AtEnd a id pos below w (if 0 < v.taken then 0 else ticks) (.matched p) :=
      h.1.atEnd_matched h.2 hf p
    simpa [hzero] using hend
  | rejected => exact ⟨h.1.same h.1.fits rfl, by simp [Result.closing, step, h.2.1], rfl⟩
  | failed f => exact ⟨h id pos f.cause.kind, rfl⟩
  | unfinished => exact h

theorem Missed.atEnd (h : Missed a (v :: below) w ticks verdict) :
    AtEnd a id pos below w ticks verdict :=
  atEnd_of_amid h.1 fun p hm => absurd hm (h.2 p)

theorem Missed.looped {k : Nat} {r : Repetition} (h : Missed a (⟨0, k⟩ :: below) w ticks verdict) :
    Looped a r below w ticks verdict :=
  ⟨k, h.1, fun p hm => absurd hm (h.2 p)⟩

end Watch

/-! ## The steps of an attempt -/

namespace Attempt

open Watch

/-- Visits leave what they should, whatever has happened before them. -/
def Watched (a : Attempt) (go : Nat → Nat → Nat → Result) : Prop :=
  ∀ id pos ticks w, w.Reads a ticks → (go id pos ticks).Shows w (Closed a w.visits)

variable {a : Attempt} {w : Watch} {node : GraphNode} {visits below : List OpenVisit}
  {id pos ticks : Nat}

theorem missed_failed {cause : Cause} (visits : List OpenVisit) (h : w.Reads a ticks)
    (he : w.ended = none) (hcause : ∀ limit, cause ≠ .ticks limit) (pos t : Nat) :
    (Result.failed cause pos t).Shows w (Missed a visits) := by
  refine ⟨fun _ _ _ => ?_, fun _ hm => by cases hm⟩
  exact h.stopped (by simp [Result.failed, step, he]) rfl hcause

theorem missed_rejected (h : w.Reads a ticks) (hv : w.visits = visits) (he : w.ended = none) :
    (Result.rejected ticks).Shows w (Missed a visits) :=
  ⟨⟨h, hv, he⟩, fun _ hm => by cases hm⟩

theorem missed_giveUp (h : w.Reads a ticks) (hv : w.visits = visits) (he : w.ended = none) :
    (a.giveUp node pos ticks).Shows w (Missed a visits) := by
  unfold giveUp
  split
  · exact missed_failed _ h he (by simp) _ _
  · exact missed_rejected h hv he

theorem tick_shows {Q : Watch → Nat → Verdict → Prop} {next : Nat → Result}
    (exhausted : a.limits.Exceeded ticks →
      Q w (ticks + 1) (.failed ⟨.ticks a.limits.ticks.toNat, [], [], pos⟩))
    (onward : ¬ a.limits.Exceeded ticks → (next (counted ticks)).Shows w Q) :
    (a.tick pos ticks next).Shows w Q := by
  unfold tick
  split
  · next hlt => exact exhausted hlt
  · next hle => exact onward hle

section
variable {go : Nat → Nat → Nat → Result} (hgo : a.Watched go)
include hgo

theorem amid_firstOf : ∀ {ids ticks w}, w.Reads a ticks → w.visits = visits → w.ended = none →
    (firstOf (fun id => go id pos) ids ticks).Shows w (Amid a visits)
  | [], _, _, h, hv, he => ⟨h, hv, he⟩
  | id :: _, ticks, w, h, hv, he => by
    have hfirst : (go id pos ticks).Shows w (Amid a visits) := hv ▸ Closed.amid (hgo id pos ticks w h)
    exact Result.shows_orElse hfirst fun _ _ hr => amid_firstOf hr.1 hr.2.1 hr.2.2

theorem amid_transitions (h : w.Reads a ticks) (hv : w.visits = visits) (he : w.ended = none) :
    (transitions go node pos ticks).Shows w (Amid a visits) := by
  unfold transitions
  split
  · exact ⟨h, hv⟩
  · refine Result.shows_mapFailure (amid_firstOf hgo h hv he) fun f t w' hf => ?_
    rw [Amid, cause_record]
    exact hf

/-- What a node takes shows in the ticks only when its transitions have matched. -/
theorem atEnd_advance (hf : a.graph.Fits ⟨id, 0⟩) (h : w.Opened a below ticks) (n : Nat) :
    (a.advance go id node pos n ticks).Shows w (AtEnd a id pos below) := by
  have hvisits : (w.step (.accepted id pos n)).visits = ⟨n, 0⟩ :: below := by
    simp [step, innermost, h.visits_eq]
  have hread : (w.step (.accepted id pos n)).Reads a ticks := by
    by_cases hn : 0 < n
    · exact h.take h.fits (by simp [step, hn]) h.beats_eq
    · exact h.same h.fits (by simp [step, hn])
  unfold advance
  rw [Result.shows_after]
  refine Result.shows_bind (amid_transitions hgo hread hvisits rfl) (fun p t w' hp => ?_)
    (fun t w' hr => ?_) (fun f t w' hfail => ?_) fun t w' hu => hu
  · exact hp.1.atEnd_matched hp.2 hf _
  · exact Missed.atEnd (missed_giveUp hr.1 hr.2.1 hr.2.2)
  · exact atEnd_of_amid hfail fun _ hm => by cases hm

end

/-! ### Rounds -/

section
variable {r : Repetition} {count : Nat} {round leave : Nat → Nat → Result}
  (hround : ∀ at_ ticks w, w.Reads a ticks → (round at_ ticks).Shows w (Closed a w.visits))
  (hleave : ∀ at_ ticks visits w, w.Reads a ticks → w.visits = visits → w.ended = none →
    (leave at_ ticks).Shows w (Amid a visits))

/-- Up to the upper bound, a loop leaves with a number of rounds that fits. -/
theorem fits_of_mayLeave (hbelow : ∀ i < count, ¬ r.IsMax i) (h : r.MayLeave count) : r.Fits count :=
  ⟨h, fun _ hmax => Nat.le_of_not_lt fun hlt => hbelow _ hlt hmax⟩

theorem looped_later {p : Partial} {consumed : Nat} {later : Result}
    (h : later.Shows (w.step (.repeated id (count + 1) consumed)) (Looped a r below)) :
    ((later.bind (fun q ticks => .matched (p.after q) ticks) .rejected).after
      [.repeated id (count + 1) consumed]).Shows w (Looped a r below) := by
  rw [Result.shows_after]
  refine Result.shows_bind h (fun q t w' hq => ?_) (fun t w' hr => hr) (fun f t w' hf => hf)
    fun t w' hu => hu
  obtain ⟨k, hk, hfits⟩ := hq
  exact ⟨k, hk, fun _ _ => hfits q rfl⟩

include hleave in
theorem looped_missed (hbelow : ∀ i < count, ¬ r.IsMax i) (h : w.Reads a ticks)
    (hv : w.visits = ⟨0, count⟩ :: below) (he : w.ended = none) (at_ : Nat) :
    (if count < r.min.toNat then
        if 0 < count then a.giveUp node at_ ticks else .rejected ticks
      else if r.greedy then (leave at_ ticks).orElse (a.giveUp node at_)
      else a.giveUp node at_ ticks).Shows w (Looped a r below) := by
  split
  · split
    · exact Missed.looped (missed_giveUp h hv he)
    · exact Missed.looped (missed_rejected h hv he)
  · next hmin =>
    split
    · have hmay : r.MayLeave count := Or.inl (Nat.le_of_not_lt hmin)
      have hleaves : (leave at_ ticks).Shows w (Looped a r below) :=
        ⟨count, hleave at_ ticks _ w h hv he, fun _ _ => fits_of_mayLeave hbelow hmay⟩
      refine Result.shows_orElse hleaves fun t w' hr => ?_
      obtain ⟨k, ⟨h, hv, he⟩, -⟩ := hr
      exact Missed.looped (missed_giveUp h hv he)
    · exact Missed.looped (missed_giveUp h hv he)

include hround hleave

/-- The rounds of an invocation, by induction on the number of those that may still be made. -/
theorem looped_loop : ∀ fuel count at_ ticks w, w.Reads a ticks → w.visits = ⟨0, count⟩ :: below →
    w.ended = none → (∀ i < count, ¬ r.IsMax i) →
      (a.loop id node r pos round leave fuel count at_ ticks).Shows w (Looped a r below)
  | 0, count, _, _, _, h, _, _, _ => ⟨count, h.toInTime, fun _ hm => by cases hm⟩
  | fuel + 1, count, at_, ticks, w, h, hv, he, hbelow => by
    rw [loop]
    refine Result.shows_bind
      (P := fun w t v => Amid a (⟨0, count⟩ :: below) w t v ∧ ∀ p, v = .matched p → r.Fits count)
      ?early (fun p t w' hp => ⟨count, hp.1, fun _ _ => hp.2 p rfl⟩) (fun t w' hr => ?_)
      (fun f t w' hf => ⟨count, hf⟩) fun t w' hu => ⟨count, hu⟩
    case early =>
      split
      · next hearly =>
        refine ⟨hleave at_ ticks _ w h hv he, fun _ _ => fits_of_mayLeave hbelow ?_⟩
        exact hearly.imp And.left (Repetition.atMax_iff hbelow).1
      · exact ⟨⟨h, hv, he⟩, fun _ hm => by cases hm⟩
    obtain ⟨⟨h, hv, he⟩, -⟩ := hr
    by_cases hmax : atMax r count
    · simp only [if_pos hmax]
      split
      · exact Missed.looped (missed_giveUp h hv he)
      · exact Missed.looped (missed_rejected h hv he)
    have hbelow' : ∀ i < count + 1, ¬ r.IsMax i := by
      intro i hi
      rcases Nat.lt_succ_iff_lt_or_eq.1 hi with hlt | rfl
      · exact hbelow i hlt
      · exact fun hi => hmax ((Repetition.atMax_iff hbelow).2 hi)
    simp only [if_neg hmax]
    refine Result.shows_bind (hround at_ t w' h) (fun p t w hp => ?_) (fun t w hr => ?_)
      (fun f t w hf => ?_) fun t w hu => ?_
    · obtain ⟨h, hvisits, hended⟩ := hp
      rw [hv] at hvisits
      -- the number of rounds goes up with the event that the round has finished
      have hnext : ∀ n t, (w.step (.repeated id (count + 1) n)).Reads a t →
          (((a.loop id node r pos round leave fuel (count + 1) (at_ + p.len) t).bind
            (fun q ticks => .matched (p.after q) ticks) .rejected).after
              [.repeated id (count + 1) n]).Shows w (Looped a r below) := fun n t hread =>
        looped_later (looped_loop fuel (count + 1) (at_ + p.len) t _ hread
          (by simp [step, innermost, hvisits]) rfl hbelow')
      split
      · next hlen =>
        exact hnext _ 0 (h.credit h.fits (by simp [step, hended, Nat.ne_of_gt hlen]))
      · next hlen =>
        have hzero : w.ended = some 0 := by rw [hended, Nat.eq_zero_of_not_pos hlen]
        refine tick_shows (fun hlt => ⟨count, fun _ _ _ => ?_, fun _ hm => by cases hm⟩) fun hle => ?_
        · exact h.exhausted h.fits (by simp [step, hzero]) hlt
        · exact hnext _ _ (h.tick h.fits (by simp [step, hzero]) hle)
    · exact looped_missed hleave hbelow hr.1 (hr.2.1.trans hv) hr.2.2 at_
    · exact ⟨count, Closed.amid hf, fun _ hm => by cases hm⟩
    · exact ⟨count, hu, fun _ hm => by cases hm⟩

end

/-! ### Nodes -/

section
variable {go : Nat → Nat → Nat → Result} (hgo : a.Watched go)
include hgo

theorem atEnd_perform (h : w.Opened a below ticks) :
    (a.perform go id pos ticks).Shows w (AtEnd a id pos below) := by
  cases hn : a.graph.node? id with
  | none =>
    rw [perform_of_none hn]
    exact Missed.atEnd (missed_rejected h.toReads h.visits_eq h.ended_eq)
  | some node =>
    have htransitions : (transitions go node pos ticks).Shows w (Amid a (⟨0, 0⟩ :: below)) :=
      amid_transitions hgo h.toReads h.visits_eq h.ended_eq
    cases hstep : node.step with
    | state name =>
      rw [perform_state hn hstep]
      exact atEnd_of_amid htransitions fun _ _ => ⟨rfl, Graph.fits_of_step hn (by simp [hstep])⟩
    | applyTag tag =>
      rw [perform_applyTag hn hstep]
      refine Result.shows_bind htransitions (fun p t w' hp => ?_) (fun t w' hr => ?_)
        (fun f t w' hf => ?_) fun t w' hu => hu
      · exact atEnd_of_amid hp fun _ _ => ⟨rfl, Graph.fits_of_step hn (by simp [hstep])⟩
      · refine Missed.atEnd (Result.shows_mapFailure (missed_giveUp hr.1 hr.2.1 hr.2.2) ?_)
        intro f t w' hf
        exact ⟨by rw [Amid, cause_record]; exact hf.1, fun _ hm => by cases hm⟩
      · exact atEnd_of_amid hf fun _ hm => by cases hm
    | subState target r =>
      cases hentry : a.graph.entryOf target with
      | none =>
        rw [perform_undefined hn hstep hentry]
        exact Missed.atEnd (missed_failed (⟨0, 0⟩ :: below) h.toReads h.ended_eq (by simp) _ _)
      | some entry =>
        rw [perform_subState hn hstep hentry]
        have hloop : (a.loop id node r pos (go entry) (transitions go node) (a.rounds r) 0 pos
            ticks).Shows w (Looped a r below) :=
          looped_loop (hgo entry) (fun _ _ _ _ => amid_transitions hgo) _ 0 pos ticks w h.toReads
            h.visits_eq h.ended_eq (by simp)
        obtain ⟨k, hk, hfits⟩ := hloop
        exact atEnd_of_amid hk fun p hm => ⟨rfl, Graph.fits_of_subState hn hstep (hfits p hm)⟩
    | _ =>
      rw [perform_matcher hn (by rw [hstep]; rfl)]
      cases a.taken pos node.step with
      | none => exact Missed.atEnd (missed_rejected h.toReads h.visits_eq h.ended_eq)
      | some n => exact atEnd_advance hgo (Graph.fits_of_step hn (by simp [hstep])) h n

end

/-- A visit begins with a tick, and ends with the event that closes it. -/
theorem closed_visited {next : Nat → Result} (h : w.Reads a ticks)
    (hnext : ∀ w', w'.Opened a w.visits (counted ticks) →
      (next (counted ticks)).Shows w' (AtEnd a id pos w.visits)) :
    ((a.tick pos ticks next).visited id pos).Shows w (Closed a w.visits) := by
  have hinside : (a.tick pos ticks next).Shows (w.step (.enter id pos)) (AtEnd a id pos w.visits) := by
    refine tick_shows (fun hlt => ⟨?_, rfl⟩) fun hle => hnext _ ⟨h.tick h.fits rfl hle, rfl, rfl, _, rfl⟩
    have hstopped : (w.step (.enter id pos)).Stopped a (.ticks a.limits.ticks.toNat) :=
      h.exhausted h.fits rfl hlt
    exact hstopped.same (by simp [Result.closing, step]) rfl
  simpa [Result.Shows, Result.visited, AtEnd] using hinside

/-- **Every visit reads the ticks off what happened**, by induction on the levels to spare. -/
theorem closed_visit : ∀ levels, a.Watched (a.visit levels)
  | 0, _, _, _, _, h => closed_visited h fun _ hw =>
    Missed.atEnd (missed_failed (⟨0, 0⟩ :: _) hw.toReads hw.ended_eq (by simp) _ _)
  | levels + 1, _, _, _, _, h => closed_visited h fun _ hw => atEnd_perform (closed_visit levels) hw

end Attempt

end GraphLexer
