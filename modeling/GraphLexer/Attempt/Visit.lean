/-
A single attempt: backtracking through the nodes of a graph from a position of the input.

  * `visit` evaluates a node, with a given number of levels of nested nodes to spare;
  * `perform` does what the kind of the node asks, visiting other nodes by the function it is given;
  * `loop` runs the rounds of an invocation.

Transitions are tried in order and the first that accepts decides; a node without transitions accepts.
Each visit is a tick, and so is each round of an invocation that takes nothing. Ticks are counted in 32
bits, so the largest number they can have is no limit for them. Progress sets the ticks back to zero,
also within an alternative that is given up later. For that reason a loop without an upper bound may
never end, and is cut off after `patience` rounds beyond its lower bound. Its rounds are counted without
a bound; a loop with an upper bound does not count beyond that.
-/
import GraphLexer.Attempt.Result
import GraphLexer.Graph.Basic
import GraphLexer.Source

namespace GraphLexer

/-- The limits of an attempt: how many ticks may pass without progress, and how deep visits may be
    nested. -/
structure Limits where
  ticks : UInt32
  depth : UInt32
  deriving DecidableEq, Repr

namespace Limits

/-- Whether the limit on ticks can be exceeded. -/
def Binds (limits : Limits) : Prop :=
  limits.ticks.toNat + 1 < UInt32.size

/-- Whether a tick after some others is beyond the limit. -/
def Exceeded (limits : Limits) (ticks : Nat) : Prop :=
  limits.Binds ∧ limits.ticks.toNat < ticks + 1

instance (limits : Limits) : Decidable limits.Binds :=
  inferInstanceAs (Decidable (_ < _))

instance (limits : Limits) (ticks : Nat) : Decidable (limits.Exceeded ticks) :=
  inferInstanceAs (Decidable (_ ∧ _))

end Limits

def Limits.default : Limits :=
  ⟨1000, 256⟩

/-- What stays the same throughout an attempt. -/
structure Attempt where
  graph : Graph
  source : Source
  limits : Limits
  /-- the rounds beyond its lower bound that an unbounded loop is given -/
  patience : Nat

namespace Attempt

/-- The number of ticks after another one. After the largest number the count starts again. -/
def counted (ticks : Nat) : Nat :=
  (ticks + 1) % UInt32.size

def tick (a : Attempt) (pos ticks : Nat) (next : Nat → Result) : Result :=
  if a.limits.Exceeded ticks then .failed (.ticks a.limits.ticks.toNat) pos (ticks + 1)
  else next (counted ticks)

/-- The failure of a committed node at a position. -/
def noMatch (a : Attempt) (node : GraphNode) (pos ticks : Nat) : Result :=
  .failed (.noTransition node.transitions.length (a.graph.describe node.step)) pos ticks

/-- The rejection of all transitions of a node: a failure if the node is committed. -/
def giveUp (a : Attempt) (node : GraphNode) (pos ticks : Nat) : Result :=
  if node.commit then a.noMatch node pos ticks else .rejected ticks

/-- Adds the name of a node to a failure that passes through it. -/
def record : Step → Failure → Failure
  | .state name, f => { f with states := f.states ++ [name] }
  | .applyTag tag, f => { f with tags := f.tags ++ [tag] }
  | _, f => f

def firstOf (go : Nat → Nat → Result) : List Nat → Nat → Result
  | [], ticks => .rejected ticks
  | id :: ids, ticks => (go id ticks).orElse (firstOf go ids)

def transitions (go : Nat → Nat → Nat → Result) (node : GraphNode) (pos ticks : Nat) : Result :=
  if node.transitions.isEmpty then .matched .empty ticks
  else (firstOf (fun id => go id pos) node.transitions ticks).mapFailure (record node.step)

/-- The transitions of a node whose own condition took `n` units. -/
def advance (a : Attempt) (go : Nat → Nat → Nat → Result) (id : Nat) (node : GraphNode)
    (pos n ticks : Nat) : Result :=
  ((transitions go node (pos + n) ticks).bind
    (fun p ticks => .matched ⟨p.len + n, p.tags⟩ (if 0 < n then 0 else ticks))
    (a.giveUp node (pos + n))).after [.accepted id pos n]

/-- Whether a loop has made all the rounds it may make. -/
def atMax (r : Repetition) (count : Nat) : Bool :=
  match r.max with
  | some max => max.toNat ≤ count
  | none => false

/-- The rounds of an invocation that has made `count` of them and is now at `at_`, in at most `fuel`
    rounds. `round` invokes the target and `leave` tries the transitions. A greedy loop leaves when the
    target rejects, any other one as soon as it may. -/
def loop (a : Attempt) (id : Nat) (node : GraphNode) (r : Repetition) (pos : Nat)
    (round leave : Nat → Nat → Result) : Nat → Nat → Nat → Nat → Result
  | 0, _, _, ticks => .unfinished ticks
  | fuel + 1, count, at_, ticks =>
    let early :=
      if (r.min.toNat ≤ count ∧ ¬ r.greedy) ∨ atMax r count then leave at_ ticks else .rejected ticks
    early.orElse fun ticks =>
      if atMax r count then
        if r.min.toNat ≤ count then a.giveUp node at_ ticks else .rejected ticks
      else
        (round at_ ticks).bind
          (fun p ticks =>
            let next (ticks : Nat) : Result :=
              ((loop a id node r pos round leave fuel (count + 1) (at_ + p.len) ticks).bind
                (fun q ticks => .matched (p.after q) ticks) .rejected).after
                  [.repeated id (count + 1) (at_ + p.len - pos)]
            if 0 < p.len then next 0 else a.tick at_ ticks next)
          (fun ticks =>
            if count < r.min.toNat then
              if 0 < count then a.giveUp node at_ ticks else .rejected ticks
            else if r.greedy then (leave at_ ticks).orElse (a.giveUp node at_)
            else a.giveUp node at_ ticks)

/-- The rounds that a loop is given: one more than its upper bound, or what patience allows. -/
def rounds (a : Attempt) (r : Repetition) : Nat :=
  match r.max with
  | some max => max.toNat + 1
  | none => r.min.toNat + a.patience

/-- Does what a node asks at a position, visiting other nodes by `go`. -/
def perform (a : Attempt) (go : Nat → Nat → Nat → Result) (id pos ticks : Nat) : Result :=
  match a.graph.node? id with
  | none => .rejected ticks
  | some node =>
    match node.step with
    | .state _ => transitions go node pos ticks
    | .applyTag tag =>
      (transitions go node pos ticks).bind
        (fun p ticks => .matched ⟨p.len, [⟨tag, pos, p.len, p.tags⟩]⟩ ticks)
        (fun ticks => (a.giveUp node pos ticks).mapFailure (record node.step))
    | .literal _ units =>
      if a.source.hasUnitsAt pos units then a.advance go id node pos units.length ticks
      else .rejected ticks
    | .unicode min max =>
      match a.source.unit? pos with
      | none => .rejected ticks
      | some unit =>
        if min.all (·.toNat ≤ unit.toNat) ∧ max.all (unit.toNat ≤ ·.toNat) then
          a.advance go id node pos 1 ticks
        else .rejected ticks
    | .regex _ matcher =>
      match (a.source.viewFrom pos).bind matcher.matchLength with
      | none => .rejected ticks
      | some n => a.advance go id node pos n ticks
    | .subState target r =>
      match a.graph.entryOf target with
      | none => .failed (.unknownState (a.graph.states.name target)) pos ticks
      | some entry =>
        a.loop id node r pos (go entry) (transitions go node) (a.rounds r) 0 pos ticks

/-- Visits a node at a position, with some levels of nested visits to spare. -/
def visit (a : Attempt) : Nat → Nat → Nat → Nat → Result
  | 0, id, pos, ticks =>
    (a.tick pos ticks (.failed (.depth a.limits.depth.toNat) pos)).visited id pos
  | levels + 1, id, pos, ticks =>
    (a.tick pos ticks (a.perform (visit a levels) id pos)).visited id pos

end Attempt

end GraphLexer
