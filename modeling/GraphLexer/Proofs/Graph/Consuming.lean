/-
A check that finds loops over targets that take something.

A node consumes if its own step takes a unit, or if it has transitions and all of them consume. Whether
a step takes something is seen from its text, its pattern or the entry of the state it invokes, so which
nodes consume depends on which other nodes do. `prune` starts from all nodes and drops those that do not
pass a test given the others, until none is left to drop. What is left by the test whether a node
consumes is consuming: no visit of its nodes matches zero units, by induction on the levels to spare
(`takes_of_visit`). A graph whose unbounded loops all go over such nodes passes the check `loopsConsume`.

Patterns are read as `Regex.engine` reads them, so what is found holds of graphs that it has compiled.
-/
import GraphLexer.Proofs.Attempt.Productive
import GraphLexer.Proofs.Graph.Arena
import GraphLexer.Proofs.Pattern.Nullable

namespace GraphLexer

namespace Graph

/-- Whether a step takes a unit or more itself, if the nodes `ids` do. -/
def stepConsumes (g : Graph) (ids : List Nat) : Step → Bool
  | .literal _ units => !units.isEmpty
  | .unicode _ _ => true
  | .regex pattern _ => (Regex.parse? (Text.view pattern)).any (!·.isNullable)
  | .subState target r =>
    decide (0 < r.min.toNat) && !Attempt.atMax r 0 && (g.entryOf target).all ids.contains
  | .state _ | .applyTag _ => false

/-- Whether a node and what comes after it take a unit or more, if the nodes `ids` do. -/
def nodeConsumes (g : Graph) (ids : List Nat) (node : GraphNode) : Bool :=
  g.stepConsumes ids node.step || !node.transitions.isEmpty && node.transitions.all ids.contains

/-- Whether the node at a position takes a unit or more, if the nodes `ids` do. -/
def consumes (g : Graph) (ids : List Nat) (id : Nat) : Bool :=
  (g.node? id).all (g.nodeConsumes ids)

/-- Nodes that all take a unit or more, if the others do. -/
def Consuming (g : Graph) (ids : List Nat) : Prop :=
  ∀ id ∈ ids, g.consumes ids id

/-- Drops nodes until each of the others passes a test given the others, in at most `fuel` rounds. -/
def prune (test : List Nat → Nat → Bool) : Nat → List Nat → List Nat
  | 0, _ => []
  | fuel + 1, ids =>
    let kept := ids.filter (test ids)
    if kept.length = ids.length then ids else prune test fuel kept

/-- The most nodes that pass a test given each other. Each round drops a node or is the last one. -/
def passing (g : Graph) (test : List Nat → Nat → Bool) : List Nat :=
  prune test (g.nodes.size + 1) (List.range g.nodes.size)

def consuming (g : Graph) : List Nat :=
  g.passing g.consumes

/-- Whether the targets of all invocations without an upper bound are undefined or found to consume. -/
def loopsConsume (g : Graph) : Bool :=
  let ids := g.consuming
  g.nodes.toList.all fun node =>
    match node.step with
    | .subState target r => r.max.isSome || (g.entryOf target).all ids.contains
    | _ => true

theorem test_of_mem_prune {test : List Nat → Nat → Bool} :
    ∀ fuel ids, ∀ id ∈ prune test fuel ids, test (prune test fuel ids) id
  | 0, _ => fun _ h => by cases h
  | fuel + 1, ids => by
    rw [prune]
    split
    · next h => exact List.length_filter_eq_length_iff.1 h
    · exact test_of_mem_prune fuel _

theorem test_of_mem_passing {g : Graph} {test : List Nat → Nat → Bool} :
    ∀ id ∈ g.passing test, test (g.passing test) id :=
  test_of_mem_prune _ _

theorem consuming_consuming (g : Graph) : g.Consuming g.consuming :=
  test_of_mem_passing

end Graph

namespace Attempt

variable {a : Attempt} {node : GraphNode}

theorem takes_of_giveUp {pos ticks : Nat} : (a.giveUp node pos ticks).verdict.Takes := by
  unfold giveUp noMatch
  split <;> trivial

theorem takes_of_tick {pos ticks : Nat} {next : Nat → Result} (h : ∀ t, (next t).verdict.Takes) :
    (a.tick pos ticks next).verdict.Takes := by
  unfold tick
  split
  · trivial
  · exact h _

theorem takes_of_record {r : Result} {step : Step} (h : r.verdict.Takes) :
    (r.mapFailure (record step)).verdict.Takes :=
  Result.ok_mapFailure h fun _ _ => trivial

theorem takes_of_firstOf {go : Nat → Nat → Result} : ∀ {ids : List Nat},
    (∀ id ∈ ids, ∀ t, (go id t).verdict.Takes) → ∀ t, (firstOf go ids t).verdict.Takes
  | [], _, _ => trivial
  | id :: _, h, t => Result.ok_orElse (h id (by simp) t)
      (takes_of_firstOf fun id hid => h id (by simp [hid]))

theorem takes_of_loop {id start : Nat} {r : Repetition} {round leave : Nat → Nat → Result} :
    ∀ {fuel count at_ ticks},
      (∀ at_ t, (leave at_ t).verdict.Takes) ∨
        (count < r.min.toNat ∧ atMax r count = false ∧ ∀ at_ t, (round at_ t).verdict.Takes) →
      (a.loop id node r start round leave fuel count at_ ticks).verdict.Takes
  | 0, _, _, _, _ => trivial
  | fuel + 1, count, at_, ticks, h => by
    rw [loop]
    refine Result.ok_orElse ?_ fun t => ?_
    · split
      · next hearly =>
        rcases h with h | ⟨hmin, hmax, _⟩
        · exact h _ _
        · rcases hearly with ⟨hle, _⟩ | hearly
          · omega
          · rw [hmax] at hearly; cases hearly
      · trivial
    split
    · split
      · exact takes_of_giveUp
      · trivial
    -- either the loop will have to leave by transitions that take something, or this round does
    refine Result.ok_bind (P := fun v => (∀ at_ t, (leave at_ t).verdict.Takes) ∨ v.Takes)
      (h.imp_right fun h => h.2.2 _ _) (fun p t hp => ?_) (fun t => ?_) (fun _ _ => trivial) trivial
    · have hnext : ∀ t, (((a.loop id node r start round leave fuel (count + 1) (at_ + p.len) t).bind
          (fun q ticks => .matched (p.after q) ticks) .rejected).after
            [.repeated id (count + 1) (at_ + p.len - start)]).verdict.Takes := fun t => by
        rw [Result.verdict_after]
        refine Result.ok_bind (P := fun v => v.Takes ∨ 0 < p.len)
          (hp.imp_left fun hleave => takes_of_loop (.inl hleave)) (fun q t h => ?_) (fun _ => trivial)
          (fun _ _ => trivial) trivial
        simp only [Verdict.Takes, Result.matched, Partial.after] at *
        omega
      split
      · exact hnext 0
      · exact takes_of_tick hnext
    · split
      · split
        · exact takes_of_giveUp
        · trivial
      · next hmin =>
        have hleave := h.resolve_right fun h => hmin h.1
        split
        · exact Result.ok_orElse (hleave at_ t) fun _ => takes_of_giveUp
        · exact takes_of_giveUp

/-- What a pattern of a graph means, as far as the graph has it. -/
theorem parse?_of_compiledBy {pattern : String} {matcher : Matcher}
    (hg : Graph.StepCompiledBy Regex.engine (.regex pattern matcher)) :
    ∃ regex, Regex.parse? (Text.view pattern) = some regex ∧ regex.matcher = matcher :=
  Option.map_eq_some_iff.1 hg

theorem pos_of_taken {ids : List Nat} {pos n : Nat} {step : Step}
    (hg : Graph.StepCompiledBy Regex.engine step) (hm : step.isMatcher = true)
    (hc : a.graph.stepConsumes ids step) (h : a.taken pos step = some n) : 0 < n := by
  cases step with
  | state | subState | applyTag => cases hm
  | literal text units =>
    simp only [taken, Option.ite_none_right_eq_some, Option.some.injEq] at h
    rw [← h.2]
    exact List.length_pos_iff.2 (by simpa [Graph.stepConsumes] using hc)
  | unicode min max =>
    obtain ⟨_, _, h⟩ := Option.bind_eq_some_iff.1 h
    simp only [Option.ite_none_right_eq_some, Option.some.injEq] at h
    omega
  | regex pattern matcher =>
    obtain ⟨regex, hregex, rfl⟩ := parse?_of_compiledBy hg
    obtain ⟨_, _, h⟩ := Option.bind_eq_some_iff.1 h
    exact Regex.matchLength_pos (by simpa [Graph.stepConsumes, hregex] using hc) h

section
variable {ids : List Nat} {go : Nat → Nat → Nat → Result}
  (hgo : ∀ id ∈ ids, ∀ pos t, (go id pos t).verdict.Takes)
include hgo

theorem takes_of_transitions (hne : node.transitions ≠ []) (hids : node.transitions.all ids.contains)
    (pos t : Nat) : (transitions go node pos t).verdict.Takes := by
  rw [transitions, if_neg (by simpa using hne)]
  refine takes_of_record (takes_of_firstOf (fun id hid => ?_) t)
  exact hgo id (by simpa using List.all_eq_true.1 hids id hid) pos

theorem takes_of_perform (hg : a.graph.CompiledBy Regex.engine) {id : Nat}
    (hc : a.graph.consumes ids id) (pos t : Nat) : (a.perform go id pos t).verdict.Takes := by
  cases hn : a.graph.node? id with
  | none => rw [perform_of_none hn]; trivial
  | some node =>
    have hnode : a.graph.stepConsumes ids node.step = true ∨
        ∀ pos t, (transitions go node pos t).verdict.Takes := by
      rw [Graph.consumes, hn, Option.all_some, Graph.nodeConsumes, Bool.or_eq_true,
        Bool.and_eq_true] at hc
      exact hc.imp_right fun h => takes_of_transitions hgo (by simpa using h.1) h.2
    cases hstep : node.step with
    | state name =>
      rw [perform_state hn hstep]
      exact hnode.resolve_left (by simp [hstep, Graph.stepConsumes]) pos t
    | applyTag tag =>
      rw [perform_applyTag hn hstep]
      refine Result.ok_bind (P := Verdict.Takes)
        (hnode.resolve_left (by simp [hstep, Graph.stepConsumes]) pos t) (fun _ _ h => h)
        (fun _ => takes_of_record takes_of_giveUp) (fun _ h => h) trivial
    | subState target r =>
      cases he : a.graph.entryOf target with
      | none => rw [perform_undefined hn hstep he]; trivial
      | some entry =>
        rw [perform_subState hn hstep he]
        refine takes_of_loop (hnode.symm.imp_right fun h => ?_)
        rw [hstep, Graph.stepConsumes, he] at h
        simp only [Option.all_some, Bool.and_eq_true, decide_eq_true_eq, Bool.not_eq_true',
          List.contains_iff_mem] at h
        exact ⟨h.1.1, h.1.2, hgo entry h.2⟩
    | _ =>
      have hm : node.step.isMatcher = true := by rw [hstep]; rfl
      rw [perform_matcher hn hm]
      cases htaken : a.taken pos node.step with
      | none => trivial
      | some n =>
        simp only [advance, Result.verdict_after]
        refine Result.ok_bind (P := fun v => 0 < n ∨ v.Takes)
          (hnode.imp (fun h => pos_of_taken (hg id node hn) hm h htaken) fun h => h _ _) (fun p _ h => ?_)
          (fun _ => takes_of_giveUp) (fun _ _ => trivial) trivial
        simp only [Verdict.Takes, Result.matched] at *
        omega

end

/-- **No visit of a consuming node matches zero units**, by induction on the levels to spare. -/
theorem takes_of_visit (hg : a.graph.CompiledBy Regex.engine) {ids : List Nat}
    (hids : a.graph.Consuming ids) : ∀ levels, ∀ id ∈ ids, ∀ pos t, (a.visit levels id pos t).verdict.Takes
  | 0, _, _, _, _ => by
    rw [visit, Result.verdict_visited]
    exact takes_of_tick fun _ => trivial
  | levels + 1, id, hid, _, _ => by
    rw [visit, Result.verdict_visited]
    exact takes_of_tick fun t => takes_of_perform (takes_of_visit hg hids levels) hg (hids id hid) _ t

end Attempt

/-- **A graph that passes the check has productive loops.** -/
theorem Graph.loopsProductive_of_loopsConsume {g : Graph} (hg : g.CompiledBy Regex.engine)
    (h : g.loopsConsume = true) : g.LoopsProductive := by
  intro id node target r entry hn hstep hmax he text limits patience levels pos ticks _ _
  have hmem : node ∈ g.nodes.toList := by
    rw [node?, ← Array.getElem?_toList] at hn
    exact List.mem_of_getElem? hn
  have hnode := List.all_eq_true.1 h node hmem
  simp only [hstep, hmax, he, Option.isSome_none, Bool.false_or, Option.all_some,
    List.contains_iff_mem] at hnode
  exact Attempt.takes_of_visit (a := ⟨g, .ofText text, limits, patience⟩) hg g.consuming_consuming
    levels entry hnode pos ticks

end GraphLexer
