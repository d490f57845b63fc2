/-
A graph and its grammar evaluate to the same.

`reply` reads a result of an attempt with the names of the graph. Read in this way, the visit of a node
is the walk through the tree that the node holds (`visit_reply`), and so an attempt on the graph of a
grammar has the outcome of a walk through the grammar (`evaluate_build`), whatever compiles the patterns.
-/
import GraphLexer.Proofs.Evaluator.Termination
import GraphLexer.Proofs.Graph.Arena
import GraphLexer.Proofs.Graph.Interpreter
import GraphLexer.Proofs.Tag.Maps

namespace GraphLexer

/-! ## Reading results -/

/-- A result with the names of a graph, and with positions counted from `start`. -/
def Result.reply (g : Graph) (start : Nat) (r : Result) : Reply :=
  match r.verdict with
  | .matched p => .matched p.len (Tag.maps g.tags.name (· - start) p.tags) r.ticks
  | .rejected => .rejected r.ticks
  | .failed f => .failed f.cause (f.tags.map g.tags.name).reverse (f.states.map g.states.name).reverse
      (f.stop - start)
  | .unfinished => .unfinished

namespace Result

variable {g : Graph} {start : Nat}

@[simp] theorem reply_after (log : List Event) (r : Result) :
    (r.after log).reply g start = r.reply g start := rfl

@[simp] theorem reply_visited (id pos : Nat) (r : Result) :
    (r.visited id pos).reply g start = r.reply g start := rfl

@[simp] theorem reply_matched (p : Partial) (ticks : Nat) : (matched p ticks).reply g start =
    .matched p.len (Tag.maps g.tags.name (· - start) p.tags) ticks := rfl

@[simp] theorem reply_failed (cause : Cause) (pos ticks : Nat) :
    (failed cause (start + pos) ticks).reply g start = .failed cause [] [] pos := by
  simp [failed, reply]

theorem reply_bind {r : Result} {onMatch : Partial → Nat → Result} {onReject : Nat → Result} {s : Reply}
    {f : Nat → List (Tag String) → Nat → Reply} {k : Nat → Reply} (h : r.reply g start = s)
    (hm : ∀ p, r.verdict = .matched p → ∀ t,
      (onMatch p t).reply g start = f p.len (Tag.maps g.tags.name (· - start) p.tags) t)
    (hr : ∀ t, (onReject t).reply g start = k t) :
    (r.bind onMatch onReject).reply g start = s.bind f k := by
  subst h
  cases hv : r.verdict with
  | matched p => rw [bind_of_matched hv, reply_after, hm p hv]; simp only [reply, hv]; rfl
  | rejected => rw [bind_of_rejected hv, reply_after, hr]; simp only [reply, hv]; rfl
  | failed failure => rw [bind_of_failed hv]; simp only [reply, hv]; rfl
  | unfinished => rw [bind_of_unfinished hv]; simp only [reply, hv]; rfl

theorem reply_orElse {r : Result} {onReject : Nat → Result} {s : Reply} {k : Nat → Reply}
    (h : r.reply g start = s) (hr : ∀ t, (onReject t).reply g start = k t) :
    (r.orElse onReject).reply g start = s.bind .matched k :=
  reply_bind h (fun _ _ _ => rfl) hr

/-- A match after another one. -/
theorem reply_joined {r : Result} {s : Reply} (p : Partial) (h : r.reply g start = s) :
    (r.bind (fun q ticks => .matched (p.after q) ticks) .rejected).reply g start =
      s.bind (fun len tags ticks => .matched (p.len + len)
        (Tag.maps g.tags.name (· - start) p.tags ++ tags) ticks) .rejected :=
  reply_bind h (fun q _ t => by rw [reply_matched, Partial.after, Tag.maps_append]) fun _ => rfl

/-- A failure gets the name of the node it passes through. -/
theorem reply_mapFailure {engine : Engine} {r : Result} {step : Step} {node : Node}
    (h : Graph.Does engine g.names step node) :
    (r.mapFailure (Attempt.record step)).reply g start = (r.reply g start).inside node := by
  cases hv : r.verdict with
  | failed f =>
    simp only [reply, mapFailure_of_failed hv, hv]
    cases h with
    | state hi => simpa [Attempt.record, Reply.inside] using NameTable.name_of_name? hi
    | applyTag hi => simpa [Attempt.record, Reply.inside] using NameTable.name_of_name? hi
    | _ => rfl
  | _ =>
    rw [mapFailure_of_not_failed (by simp [hv])]
    simp only [reply, hv]
    cases node <;> rfl

end Result

theorem Graph.length_of_holdsAll {engine : Engine} {g : Graph} :
    ∀ {ids : List Nat} {ts : List Tree}, g.HoldsAll engine ids ts →
    ids.length = ts.length
  | [], [], _ => rfl
  | _ :: _, _ :: _, ⟨_, h⟩ => congrArg (· + 1) (length_of_holdsAll h)

theorem Graph.isEmpty_of_holdsAll {engine : Engine} {g : Graph} :
    ∀ {ids : List Nat} {ts : List Tree}, g.HoldsAll engine ids ts →
    ids.isEmpty = ts.isEmpty
  | [], [], _ => rfl
  | _ :: _, _ :: _, _ => rfl

/-! ## One node -/

namespace Attempt

/-- An attempt from `start` on and a walk on the same units, under the same limits. -/
structure Mirrors (a : Attempt) (w : Interpreter) (input : String) (start : Nat) : Prop where
  source : a.source = Source.ofText input
  units : w.units = (Text.units input).drop start
  limits : w.limits = a.limits
  patience : w.patience = a.patience

variable {a : Attempt} {w : Interpreter} {engine : Engine} {input : String} {start : Nat}

/-- Two continuations that come to the same at every position of the input. -/
def Agree (a : Attempt) (start : Nat) (f : Nat → Nat → Result) (f' : Nat → Nat → Reply) : Prop :=
  ∀ pos t, start + pos ≤ a.source.length → (f (start + pos) t).reply a.graph start = f' pos t

/-- A node of the arena and the root of the tree that it holds. -/
structure SameRoot (engine : Engine) (g : Graph) (node : GraphNode) (t : Tree) : Prop where
  commit : node.commit = t.commit
  step : Graph.Does engine g.names node.step t.node
  transitions : g.HoldsAll engine node.transitions t.transitions

theorem sameRoot_of_holds {engine : Engine} {g : Graph} {id : Nat} : ∀ {t : Tree}, g.Holds engine id t →
    ∃ node, g.node? id = some node ∧ SameRoot engine g node t
  | ⟨_, _, _⟩, ⟨_, _, hn, hd, hall⟩ => ⟨_, hn, rfl, hd, hall⟩

theorem giveUp_reply {node : GraphNode} {t : Tree} (h : SameRoot engine a.graph node t) (pos ticks : Nat) :
    (a.giveUp node (start + pos) ticks).reply a.graph start = Interpreter.giveUp t pos ticks := by
  unfold giveUp Interpreter.giveUp noMatch
  rw [h.commit]
  split
  · rw [Result.reply_failed, Graph.describe_eq h.step, Graph.length_of_holdsAll h.transitions]
  · rfl

theorem firstOf_reply {go : Nat → Nat → Result} {go' : Tree → Nat → Reply}
    (hgo : ∀ {id t}, a.graph.Holds engine id t → ∀ ticks, (go id ticks).reply a.graph start = go' t ticks) :
    ∀ {ids ts}, a.graph.HoldsAll engine ids ts → ∀ ticks,
      (firstOf go ids ticks).reply a.graph start = Interpreter.firstOf go' ts ticks
  | [], [], _, _ => rfl
  | _ :: _, _ :: _, ⟨h, hs⟩, ticks => Result.reply_orElse (hgo h ticks) (firstOf_reply hgo hs)

section
variable {go : Nat → Nat → Nat → Result} {go' : Tree → Nat → Nat → Reply}
  (hgo : ∀ {id t}, a.graph.Holds engine id t → Agree a start (go id) (go' t))
  {node : GraphNode} {t : Tree} (h : SameRoot engine a.graph node t)
include hgo h

theorem transitions_reply : Agree a start (transitions go node) (Interpreter.onward go' t) := by
  intro pos ticks hpos
  unfold transitions Interpreter.onward
  simp only [Graph.isEmpty_of_holdsAll h.transitions]
  split
  · rfl
  · rw [Result.reply_mapFailure h.step,
      firstOf_reply (fun hh ticks => hgo hh pos ticks hpos) h.transitions]

theorem advance_reply {id pos n ticks : Nat} (hpos : start + (pos + n) ≤ a.source.length) :
    (a.advance go id node (start + pos) n ticks).reply a.graph start =
      (Interpreter.onward go' t (pos + n) ticks).bind
        (fun len tags ticks => .matched (n + len) tags (if n = 0 then ticks else 0))
        (Interpreter.giveUp t (pos + n)) := by
  rw [advance, Result.reply_after, Nat.add_assoc]
  refine Result.reply_bind (transitions_reply hgo h (pos + n) ticks hpos) (fun p _ t => ?_)
    (giveUp_reply h (pos + n))
  rw [Result.reply_matched, Nat.add_comm]
  congr 1
  split <;> split <;> first | rfl | omega

end

theorem atMax_eq (r : Repetition) (count : Nat) : atMax r count = r.max.any (·.toNat ≤ count) := by
  unfold atMax
  cases r.max <;> rfl

section
variable (m : a.Mirrors w input start)
include m

theorem tick_reply {pos ticks : Nat} {next : Nat → Result} {next' : Nat → Reply}
    (h : ∀ t, (next t).reply a.graph start = next' t) :
    (a.tick (start + pos) ticks next).reply a.graph start = w.tick pos ticks next' := by
  unfold tick Interpreter.tick
  rw [m.limits]
  split
  · exact Result.reply_failed _ _ _
  · exact h _

/-- The rounds of an invocation, by induction on their number. -/
theorem loop_reply {id origin : Nat} {node : GraphNode} {t' : Tree} (h : SameRoot engine a.graph node t')
    {r : Repetition} {round leave : Nat → Nat → Result} {round' leave' : Nat → Nat → Reply}
    (hlen : ∀ {at_ t p}, (round at_ t).verdict = .matched p → p.len ≤ a.left at_)
    (hround : Agree a start round round') (hleave : Agree a start leave leave') :
    ∀ fuel count, Agree a start (a.loop id node r origin round leave fuel count)
      (w.loop t' r round' leave' fuel count)
  | 0, _, _, _, _ => rfl
  | fuel + 1, count, pos, ticks, hpos => by
    rw [loop, Interpreter.loop]
    simp only [atMax_eq]
    refine Result.reply_orElse ?_ fun t => ?_
    · split
      · exact hleave pos ticks hpos
      · rfl
    split
    · split
      · exact giveUp_reply h _ _
      · rfl
    refine Result.reply_bind (hround pos t hpos) (fun p hp t => ?_) fun t => ?_
    · have hpos' : start + (pos + p.len) ≤ a.source.length := by
        have := hlen hp
        unfold left at this
        omega
      have hnext : ∀ t,
          (a.loop id node r origin round leave fuel (count + 1) (start + pos + p.len) t).reply a.graph start =
            w.loop t' r round' leave' fuel (count + 1) (pos + p.len) t := fun t => by
        rw [Nat.add_assoc]
        exact loop_reply h hlen hround hleave fuel (count + 1) (pos + p.len) t hpos'
      by_cases hempty : p.len = 0
      · rw [if_neg (by omega), if_pos hempty]
        exact tick_reply m fun t => Result.reply_joined p (hnext t)
      · rw [if_pos (by omega), if_neg hempty]
        exact Result.reply_joined p (hnext 0)
    · by_cases hmin : count < r.min.toNat
      · rw [if_pos hmin, if_pos hmin]
        by_cases hcount : count = 0
        · rw [if_neg (by omega), if_pos hcount]; rfl
        · rw [if_pos (by omega), if_neg hcount]; exact giveUp_reply h _ _
      · rw [if_neg hmin, if_neg hmin]
        split
        · exact Result.reply_orElse (hleave pos t hpos) (giveUp_reply h pos)
        · exact giveUp_reply h _ _

/-- A node takes as much as the node of its tree. -/
theorem taken_eq {step : Step} {node : Node} (hd : Graph.Does w.engine a.graph.names step node) {pos : Nat}
    (hpos : start + pos ≤ a.source.length) :
    a.taken (start + pos) step = Interpreter.takes w.engine (w.units.drop pos) node := by
  rw [m.source, Source.length_ofText] at hpos
  rw [m.units, List.drop_drop]
  cases hd with
  | @literal text =>
    have : a.source.hasUnitsAt (start + pos) (Text.units text) =
        (Text.units text).isPrefixOf ((Text.units input).drop (start + pos)) := by
      rw [Bool.eq_iff_iff, m.source, Source.hasUnitsAt_ofText, List.isPrefixOf_iff_prefix]
      exact and_iff_right hpos
    simp only [taken, Interpreter.takes, this]
  | unicode =>
    simp only [taken, Interpreter.takes, m.source, Source.unit?_ofText, ← List.head?_drop]
    cases (Text.units input).drop (start + pos) <;> rfl
  | regex hr =>
    rw [taken, Interpreter.takes, hr, m.source, Source.viewFrom_ofText, if_pos hpos,
      Option.bind_some, Option.bind_some, Text.view, List.map_drop]
  | _ => rfl

/-- A node that compares the input with something, and the node of its tree. -/
theorem matcher_reply {go : Nat → Nat → Nat → Result} {go' : Tree → Nat → Nat → Reply}
    (hgo : ∀ {id t}, a.graph.Holds w.engine id t → Agree a start (go id) (go' t)) {node : GraphNode} {t : Tree}
    (h : SameRoot w.engine a.graph node t) (id ticks : Nat) {pos : Nat} (hpos : start + pos ≤ a.source.length) :
    (match a.taken (start + pos) node.step with
      | none => Result.rejected ticks
      | some n => a.advance go id node (start + pos) n ticks).reply a.graph start =
    match Interpreter.takes w.engine (w.units.drop pos) t.node with
    | none => .rejected ticks
    | some n => (Interpreter.onward go' t (pos + n) ticks).bind
        (fun len tags ticks => .matched (n + len) tags (if n = 0 then ticks else 0))
        (Interpreter.giveUp t (pos + n)) := by
  rw [← taken_eq m h.step hpos]
  cases hn : a.taken (start + pos) node.step with
  | none => rfl
  | some n =>
    have := taken_le m.source hn
    exact advance_reply hgo h (by unfold left at this; omega)

section
variable (hg : Graph.build w.engine w.grammar = .ok a.graph)
include hg

/-- What a node does is what its tree says, if this holds of the nodes it visits. -/
theorem perform_reply {go : Nat → Nat → Nat → Result} {go' : Tree → Nat → Nat → Reply}
    (hgo : ∀ {id t}, a.graph.Holds w.engine id t → Agree a start (go id) (go' t))
    (hlen : ∀ {id at_ t p}, (go id at_ t).verdict = .matched p → p.len ≤ a.left at_)
    {id : Nat} {t : Tree} (h : a.graph.Holds w.engine id t) :
    Agree a start (a.perform go id) (w.perform go' t) := by
  intro pos ticks hpos
  obtain ⟨node, hn, hr⟩ := sameRoot_of_holds h
  have honward := transitions_reply hgo hr
  have hd := hr.step
  have hmatcher := matcher_reply m hgo hr id ticks hpos
  unfold Interpreter.perform
  generalize hnode : t.node = tnode at hd hmatcher
  generalize hstep : node.step = step at hd hmatcher
  cases hd with
  | state hi =>
    rw [perform_state hn hstep]
    exact honward pos ticks hpos
  | @applyTag i tag hi =>
    rw [perform_applyTag hn hstep]
    refine Result.reply_bind (honward pos ticks hpos) (fun p _ t => ?_) fun t => ?_
    · simpa [Tag.maps, Tag.map] using NameTable.name_of_name? hi
    · rw [Result.reply_mapFailure hr.step, giveUp_reply hr, hnode]
  | @subState i target r hi =>
    have hrel := Graph.entryOf_rel hg hi
    generalize hs : w.grammar.state? target = state at hrel
    generalize he : a.graph.entryOf i = entry at hrel
    cases hrel with
    | none =>
      rw [perform_undefined hn hstep he, Result.reply_failed,
        show a.graph.states.name i = target from NameTable.name_of_name? hi]
      simp only [hs]
    | some hstate =>
      rw [perform_subState hn hstep he]
      simp only [hs, rounds, ← m.patience]
      exact loop_reply m hr hlen (hgo hstate) honward _ 0 pos ticks hpos
  | _ =>
    rw [perform_matcher hn (by rw [hstep]; rfl), hstep]
    exact hmatcher

/-- **A visit of a node is a walk through its tree**, by induction on the levels to spare. -/
theorem visit_reply : ∀ levels {id t}, a.graph.Holds w.engine id t →
    Agree a start (a.visit levels id) (w.walk levels t)
  | 0, _, _, _, _, _, _ => by
    rw [visit, Interpreter.walk, Result.reply_visited, m.limits]
    exact tick_reply m fun _ => Result.reply_failed _ _ _
  | levels + 1, _, _, h, pos, _, hpos => by
    rw [visit, Interpreter.walk, Result.reply_visited]
    exact tick_reply m fun t =>
      perform_reply m hg (visit_reply levels) (len_le_of_visit m.source) h pos t hpos

end

end

end Attempt

/-! ## Attempts -/

namespace Evaluator

/-- A result and its reading have the same outcome. -/
theorem outcome_reply (g : Graph) (input : String) (start : Nat) (r : Result) :
    outcome g (Source.ofText input) start r.verdict =
      (r.reply g start).outcome ((Text.units input).drop start) := by
  cases hv : r.verdict with
  | failed f => simp only [Result.reply, hv, outcome, report, Source.slice_ofText, Reply.outcome]
  | _ => simp only [Result.reply, hv, outcome, Reply.outcome]

variable {engine : Engine} {g : Grammar} {graph : Graph} (h : Graph.build engine g = .ok graph)
include h

theorem attemptWithin_build (entry : String) (limits : Limits) (input : String) (n : Nat)
    {start : Nat} (hstart : start ≤ Text.length input) :
    (Evaluator.mk graph entry limits).attemptWithin n (Source.ofText input) start =
      (Interpreter.mk engine g limits ((Text.units input).drop start) n).evaluate entry := by
  have hrel := Graph.entry_rel h entry
  unfold attemptWithin Interpreter.evaluate
  dsimp only
  generalize g.state? entry = state at hrel ⊢
  generalize graph.entry entry = node at hrel ⊢
  cases hrel with
  | none => rfl
  | some holds =>
    have hvisit := Attempt.visit_reply
      (a := setting ⟨graph, entry, limits⟩ n (Source.ofText input))
      (w := ⟨engine, g, limits, (Text.units input).drop start, n⟩) ⟨rfl, rfl, rfl, rfl⟩ h limits.depth.toNat
      holds 0 0 (by rw [setting, Source.length_ofText, ← Text.length_eq]; exact hstart)
    exact (outcome_reply graph input start _).trans (congrArg (Reply.outcome _) hvisit)

/-- **A graph evaluates as the grammar it is made from**, whatever compiles the patterns. With any number
    of rounds for the loops, an attempt has the outcome of a walk through the grammar, and so has an
    attempt that ends. -/
theorem evaluate_build (entry : String) (limits : Limits) (input : String) :
    (∀ n start, start ≤ Text.length input →
      (Evaluator.mk graph entry limits).attemptWithin n (Source.ofText input) start =
        (Interpreter.mk engine g limits ((Text.units input).drop start) n).evaluate entry) ∧
    ∀ o, (Evaluator.mk graph entry limits).evaluate input = some o ↔
      ∃ n, (Interpreter.mk engine g limits (Text.units input) n).evaluate entry = some o := by
  refine ⟨fun n start => attemptWithin_build h entry limits input n, fun o => ?_⟩
  rw [evaluate, evaluateTraced, attempt_eq_some]
  simp only [attemptWithin_build h entry limits input _ (Nat.zero_le _), List.drop_zero]

omit h

/-- A state invokes another one within a tag, and that one a state that is not defined. -/
def incomplete : Grammar where
  root := "S"
  states := [
    .plain (.state "S") [.plain (.applyTag "tag") [.plain (.subState "T" (.oneOrMore true)) []]],
    .plain (.state "T") [.plain (.literal "a") [.plain (.subState "U" .once) []]]]
  named := by simp [Tree.plain, Tree.stateName?]
  distinct := by simp [Tree.plain, Tree.stateNames, Tree.stateName?]

/-- The graph fails as the walk does. -/
theorem evaluate_incomplete : ∃ graph, Graph.ofGrammar incomplete = .ok graph ∧
    (ofGraph graph).evaluate "ab" = some (.failed ⟨.unknownNodeKind,
      "Tried to evaluate unknown state: U", ["tag"], ["S", "T"], "a"⟩) :=
  ⟨_, rfl, ((@evaluate_build Regex.engine incomplete _ rfl "S" .default "ab").2 _).2 ⟨0, rfl⟩⟩

end Evaluator

end GraphLexer
