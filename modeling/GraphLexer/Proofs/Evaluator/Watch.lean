/-
What a watch over an attempt tells about its outcome.

The ticks of an attempt are those since the last credit, so an attempt fails on them exactly when they
exceed the limit after one (`ticks_since_credit`). Units that are taken count only from the moment they
are credited. Where what was taken last is still uncredited, a failure on ticks therefore comes too early:
a chain of nodes that each take a unit fails although there is a tick between any two of them
(`chain_uncredited`).

An invocation matches with no more rounds than its upper bound, and with as many as it needs exactly if
its bounds allow them (`rounds_of_finished`). Otherwise it leaves at the upper bound
(`excess_too_few`).
-/
import GraphLexer.Proofs.Attempt.Credit
import GraphLexer.Proofs.Evaluator.Within
import GraphLexer.Proofs.Grammar.Binary

namespace GraphLexer

/-! ## Ticks -/

/-- The two messages about limits differ before the limit is named. -/
theorem Cause.ticks_message_ne (limit depth : Nat) :
    (Cause.ticks limit).message ≠ (Cause.depth depth).message := by
  have hne : ∀ x y, "Exceeded the maximum amount of ticks without progressing. (" ++ x ++ ")" ≠
      "Exceeded the maximum depth of nested nodes. (" ++ y ++ ")" := by
    intro x y h
    have h := congrArg (fun s => s.toList[21]?) h
    simp at h
  exact hne _ _

namespace Evaluator

def watch (e : Evaluator) (source : Source) (start : Nat) : Watch :=
  Watch.start.after (e.attempt source start).2

/-- The moments of an attempt. -/
def beats (e : Evaluator) (source : Source) (start : Nat) : List Beat :=
  (e.watch source start).beats

/-- An attempt fails with the message that its limit on ticks is exceeded. -/
def FailsOnTicks (e : Evaluator) (source : Source) (start : Nat) : Prop :=
  ∃ error, (e.attempt source start).1 = some (.failed error) ∧ error.kind = .loopLimitExceeded ∧
    error.message = (Cause.ticks e.limits.ticks.toNat).message

variable (e : Evaluator) (source : Source) (start : Nat)

theorem watch_spec :
    ((e.attempt source start).1 = some (.failed (.ofCause (.unknownState e.entry))) ∧
        e.watch source start = .start) ∨
      ∃ ticks v, (e.attempt source start).1 = outcome e.graph source start v ∧
        (e.watch source start).Closed (e.setting (patience e.limits source) source) [] ticks v := by
  unfold watch attempt
  cases e.graph.entry e.entry with
  | none => exact Or.inl ⟨rfl, rfl⟩
  | some entry =>
    exact Or.inr ⟨_, _, rfl, Attempt.closed_visit (a := e.setting (patience e.limits source) source)
      e.limits.depth.toNat entry start 0 .start Watch.reads_start⟩

theorem watch_sound : (e.watch source start).Sound (e.setting (patience e.limits source) source) := by
  rcases watch_spec e source start with ⟨-, hw⟩ | ⟨ticks, v, -, hclosed⟩
  · rw [hw]
    exact Watch.reads_start.toSound
  · cases v with
    | matched p => exact hclosed.1.toSound
    | rejected => exact hclosed.1.toSound
    | failed f => exact hclosed.1.toSound
    | unfinished => exact hclosed.toSound

variable {e source start}

/-- The last tick of an attempt that fails on its ticks is the first one beyond the limit. -/
theorem FailsOnTicks.since_credited (h : e.FailsOnTicks source start) :
    e.limits.Binds ∧ Beat.credited.since (e.beats source start) = e.limits.ticks.toNat + 1 := by
  obtain ⟨error, ho, hkind, hmessage⟩ := h
  rcases watch_spec e source start with ⟨ho', -⟩ | ⟨ticks, v, ho', hclosed⟩
  · rw [ho] at ho'
    cases ho'
    cases hkind
  rw [ho] at ho'
  cases v with
  | failed f =>
    cases ho'
    rcases hclosed.1.stops with ⟨-, hsince⟩ | ⟨hcause, -⟩
    · exact hsince
    · cases hf : f.cause with
      | ticks limit => exact absurd hf (hcause limit)
      | depth limit =>
        rw [report, hf] at hmessage
        exact absurd hmessage.symm (Cause.ticks_message_ne _ _)
      | _ => rw [report, hf] at hkind; cases hkind
  | _ => cases ho'

theorem within_of_not_failsOnTicks (h : ¬ e.FailsOnTicks source start) (hb : e.limits.Binds) :
    Beat.credited.Within e.limits.ticks.toNat (e.beats source start) := by
  rcases watch_spec e source start with ⟨-, hw⟩ | ⟨ticks, v, ho, hclosed⟩
  · rw [beats, hw]
    exact (Watch.reads_start (a := e.setting 0 source)).within hb
  · cases v with
    | matched p => exact hclosed.1.within hb
    | rejected => exact hclosed.1.within hb
    | unfinished => exact hclosed.within hb
    | failed f =>
      rcases hclosed.1.stops with ⟨hcause, -⟩ | ⟨-, hwithin⟩
      · refine absurd ⟨_, ho, ?_, ?_⟩ h
        · rw [report, hcause]; rfl
        · rw [report, hcause]; rfl
      · exact hwithin hb

/-- **Ticks are counted from the last credit.** An attempt fails on them exactly if there are more than
    the limit with no credit in between, unless the limit is the largest number that is counted. Counted
    from the last units taken, they exceed the limit as well exactly if nothing taken is uncredited; so if
    units are taken often enough, a failure comes only while some of them are uncredited. -/
theorem ticks_since_credit (e : Evaluator) (source : Source) (start : Nat) :
    (e.FailsOnTicks source start ↔ e.limits.Binds ∧
        ¬ Beat.credited.Within e.limits.ticks.toNat (e.beats source start)) ∧
      (e.FailsOnTicks source start →
        Beat.credited.since (e.beats source start) = e.limits.ticks.toNat + 1 ∧
        (e.limits.ticks.toNat < Beat.taken.since (e.beats source start) ↔
          ¬ Beat.Uncredited (e.beats source start))) ∧
      (e.FailsOnTicks source start → Beat.taken.Within e.limits.ticks.toNat (e.beats source start) →
        Beat.Uncredited (e.beats source start)) := by
  have hiff : e.FailsOnTicks source start →
      (e.limits.ticks.toNat < Beat.taken.since (e.beats source start) ↔
        ¬ Beat.Uncredited (e.beats source start)) := by
    intro h
    have htimely : Beat.Timely (e.beats source start) := (watch_sound e source start).timely
    rw [← Beat.taken_lt_credited_iff htimely, h.since_credited.2]
    omega
  refine ⟨⟨fun h => ⟨h.since_credited.1, fun hwithin => ?_⟩, fun h => ?_⟩,
    fun h => ⟨h.since_credited.2, hiff h⟩, fun h hwithin => ?_⟩
  · have := Beat.since_le_of_within (by decide) hwithin
    rw [h.since_credited.2] at this
    exact Nat.not_succ_le_self _ this
  · by_contra hnot
    exact h.2 (within_of_not_failsOnTicks hnot h.1)
  · by_contra hnot
    have := (hiff h).2 hnot
    exact Nat.not_lt_of_le (Beat.since_le_of_within (by decide) hwithin) this

def lapsing : Grammar where
  root := "R"
  states := [
    .plain (.state "R") [.plain (.subState "T" (.zeroOrMore true)) []],
    .plain (.state "T") [.plain (.literal "a") [], .plain (.literal "") []]]
  named := by simp [Tree.plain, Tree.stateName?]
  distinct := by simp [Tree.plain, Tree.stateNames, Tree.stateName?]

/-- The letter is credited before the rounds that take nothing. -/
theorem lapsing_fails : ∃ graph, Graph.ofGrammar lapsing = .ok graph ∧
    (Evaluator.mk graph "R" ⟨7, 256⟩).FailsOnTicks (.ofText "a") 0 ∧
    Beat.taken ∈ (Evaluator.mk graph "R" ⟨7, 256⟩).beats (.ofText "a") 0 ∧
    ¬ Beat.Uncredited ((Evaluator.mk graph "R" ⟨7, 256⟩).beats (.ofText "a") 0) := by
  have hfails : ∃ graph, Graph.ofGrammar lapsing = .ok graph ∧
      (Evaluator.mk graph "R" ⟨7, 256⟩).FailsOnTicks (.ofText "a") 0 ∧
      Beat.taken ∈ (Evaluator.mk graph "R" ⟨7, 256⟩).beats (.ofText "a") 0 ∧
      7 < Beat.taken.since ((Evaluator.mk graph "R" ⟨7, 256⟩).beats (.ofText "a") 0) :=
    ⟨_, rfl, ⟨_, rfl, rfl, rfl⟩, by decide +kernel, by decide +kernel⟩
  obtain ⟨graph, hg, h, htaken, hsince⟩ := hfails
  exact ⟨graph, hg, h, htaken, (((ticks_since_credit _ _ _).2.1 h).2).1 hsince⟩

def chain : Grammar where
  root := "S"
  states := [.plain (.state "S")
    [.plain (.literal "a") [.plain (.literal "b") [.plain (.literal "c") []]]]]
  named := by simp [Tree.plain, Tree.stateName?]
  distinct := by simp [Tree.plain, Tree.stateNames, Tree.stateName?]

/-- **A chain of nodes that each take a unit fails on three ticks**, although there are never more than
    two of them without a unit that is taken, and one after the last unit. -/
theorem chain_uncredited : ∃ graph, Graph.ofGrammar chain = .ok graph ∧
    (Evaluator.mk graph "S" ⟨3, 256⟩).FailsOnTicks (.ofText "abc") 0 ∧
    Beat.taken.Within 2 ((Evaluator.mk graph "S" ⟨3, 256⟩).beats (.ofText "abc") 0) ∧
    Beat.taken.since ((Evaluator.mk graph "S" ⟨3, 256⟩).beats (.ofText "abc") 0) = 1 ∧
    (Evaluator.mk graph "S" ⟨4, 256⟩).evaluate "abc" = some (.matched 3 []) :=
  ⟨_, rfl, ⟨_, rfl, rfl, rfl⟩, by decide +kernel, by decide +kernel, rfl⟩

/-! ## Rounds -/

/-- **Invocations match with a number of rounds within their bounds**, if these leave one. Their upper
    bound is never exceeded, and the lower bound is met exactly if it is within the upper one. -/
theorem rounds_of_finished (e : Evaluator) (source : Source) (start : Nat) :
    ∀ m ∈ (e.watch source start).finished, ∀ node target r, e.graph.node? m.node = some node →
      node.step = .subState target r →
        (∀ max, r.max = some max → m.rounds ≤ max.toNat) ∧
        (r.min.toNat ≤ m.rounds ↔ ∀ max, r.max = some max → r.min.toNat ≤ max.toNat) := by
  intro m hm node target r hn hstep
  obtain ⟨hleave, hmost⟩ := (watch_sound e source start).fits m hm node target r hn hstep
  have hmax : ∀ max, r.max = some max → m.rounds ≤ max.toNat := by
    intro max hmax
    exact hmost _ (by rw [Repetition.IsMax, hmax]; rfl)
  refine ⟨hmax, fun hmin max hr => Nat.le_trans hmin (hmax max hr), fun hbounds => ?_⟩
  rcases hleave with hmin | hlast
  · exact hmin
  · obtain ⟨max, hr, hrounds⟩ := Option.map_eq_some_iff.1 hlast
    exact hrounds ▸ hbounds max hr

def repeated (r : Repetition) : Grammar where
  root := "R"
  states := [
    .plain (.state "R") [.plain (.subState "Item" r) []],
    .plain (.state "Item") [.plain (.literal "a") []]]
  named := by simp [Tree.plain, Tree.stateName?]
  distinct := by simp [Tree.plain, Tree.stateNames, Tree.stateName?]

theorem repeated_twice : ∃ graph node, Graph.ofGrammar (repeated ⟨true, 1, some 3⟩) = .ok graph ∧
    graph.node? 1 = some node ∧ node.step = .subState 1 ⟨true, 1, some 3⟩ ∧
    ⟨1, 2⟩ ∈ ((Evaluator.mk graph "R" .default).watch (.ofText "aab") 0).finished ∧
    (1 : UInt32).toNat ≤ 2 ∧ 2 ≤ (3 : UInt32).toNat := by
  have hfinished : ∃ graph node, Graph.ofGrammar (repeated ⟨true, 1, some 3⟩) = .ok graph ∧
      graph.node? 1 = some node ∧ node.step = .subState 1 ⟨true, 1, some 3⟩ ∧
      ⟨1, 2⟩ ∈ ((Evaluator.mk graph "R" .default).watch (.ofText "aab") 0).finished :=
    ⟨_, _, rfl, rfl, rfl, by decide +kernel⟩
  obtain ⟨graph, node, hg, hn, hstep, hm⟩ := hfinished
  obtain ⟨hmax, hmin⟩ := rounds_of_finished _ _ _ _ hm _ _ _ hn hstep
  exact ⟨graph, node, hg, hn, hstep, hm, hmin.2 fun max h => by cases h; decide, hmax 3 rfl⟩

/-- **An invocation of two to one rounds is accepted, and matches with one.** -/
theorem excess_too_few : ∃ graph node,
    Grammar.ofBinary (repeated ⟨true, 2, some 1⟩).toBinary = .ok (repeated ⟨true, 2, some 1⟩) ∧
    Graph.ofGrammar (repeated ⟨true, 2, some 1⟩) = .ok graph ∧
    graph.node? 1 = some node ∧ node.step = .subState 1 ⟨true, 2, some 1⟩ ∧
    (ofGraph graph).evaluate "a" = some (.matched 1 []) ∧
    ⟨1, 1⟩ ∈ ((ofGraph graph).watch (.ofText "a") 0).finished := by
  refine ⟨_, _, ?_, rfl, rfl, rfl, rfl, by decide +kernel⟩
  simpa using Grammar.ofBinary_toBinary (g := repeated ⟨true, 2, some 1⟩) (by decide +kernel) []

end Evaluator

end GraphLexer
