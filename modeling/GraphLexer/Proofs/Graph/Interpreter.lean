/-
Evaluation of grammars as they are written, without a graph.

`walk` goes through the trees of a grammar. An invocation looks its target up by name when it is
reached, literals are spelt and patterns are compiled when they are met, and everything carries names.
What is to be matched is a list of units, and positions are places in it.
-/
import GraphLexer.Evaluator
import GraphLexer.Graph.Lower

namespace GraphLexer

/-- What a walk comes to. The names in a failure are those that were open, outermost first. -/
inductive Reply where
  | matched (len : Nat) (tags : List (Tag String)) (ticks : Nat)
  | rejected (ticks : Nat)
  | failed (cause : Cause) (tags states : List String) (stop : Nat)
  /-- a loop was cut off -/
  | unfinished

namespace Reply

def bind (r : Reply) (onMatch : Nat → List (Tag String) → Nat → Reply) (onReject : Nat → Reply) :
    Reply :=
  match r with
  | matched len tags ticks => onMatch len tags ticks
  | rejected ticks => onReject ticks
  | failed cause tags states stop => failed cause tags states stop
  | unfinished => unfinished

/-- A failure within a node has the node's name around the names that were open. -/
def inside : Node → Reply → Reply
  | .state name, failed cause tags states stop => failed cause tags (name :: states) stop
  | .applyTag tag, failed cause tags states stop => failed cause (tag :: tags) states stop
  | _, r => r

def outcome (units : List UInt16) : Reply → Option Outcome
  | matched len tags _ => some (.matched len tags)
  | rejected _ => some .noMatch
  | failed cause tags states stop =>
    some (.failed ⟨cause.kind, cause.message, tags, states, Text.ofUnits (units.take stop)⟩)
  | unfinished => none

end Reply

/-- A walk through the trees of a grammar, on some units. -/
structure Interpreter where
  engine : Engine
  grammar : Grammar
  limits : Limits
  units : List UInt16
  /-- the rounds beyond its lower bound that an unbounded loop is given -/
  patience : Nat

namespace Interpreter

/-- How much of some units a node takes itself. -/
def takes (engine : Engine) (rest : List UInt16) : Node → Option Nat
  | .literal text => if (Text.units text).isPrefixOf rest then some (Text.units text).length else none
  | .unicode min max =>
    match rest with
    | [] => none
    | unit :: _ =>
      if min.all (·.toNat ≤ unit.toNat) ∧ max.all (unit.toNat ≤ ·.toNat) then some 1 else none
  | .regex pattern => (engine.compile (Text.view pattern)).bind (·.matchLength (rest.map Text.viewChar))
  | .state _ | .subState _ _ | .applyTag _ => some 0

variable (w : Interpreter)

def tick (pos ticks : Nat) (next : Nat → Reply) : Reply :=
  if w.limits.Exceeded ticks then .failed (.ticks w.limits.ticks.toNat) [] [] pos
  else next (Attempt.counted ticks)

def giveUp (t : Tree) (pos ticks : Nat) : Reply :=
  if t.commit then .failed (.noTransition t.transitions.length t.node) [] [] pos else .rejected ticks

def firstOf (go : Tree → Nat → Reply) : List Tree → Nat → Reply
  | [], ticks => .rejected ticks
  | t :: ts, ticks => (go t ticks).bind .matched (firstOf go ts)

def onward (go : Tree → Nat → Nat → Reply) (t : Tree) (pos ticks : Nat) : Reply :=
  if t.transitions.isEmpty then .matched 0 [] ticks
  else (firstOf (fun u => go u pos) t.transitions ticks).inside t.node

/-- The rounds of an invocation `t` after the first `count` ones, at most `fuel` of them. -/
def loop (t : Tree) (r : Repetition) (round leave : Nat → Nat → Reply) : Nat → Nat → Nat → Nat → Reply
  | 0, _, _, _ => .unfinished
  | fuel + 1, count, pos, ticks =>
    let done := r.max.any (·.toNat ≤ count)
    let early :=
      if (r.min.toNat ≤ count ∧ ¬ r.greedy) ∨ done then leave pos ticks else .rejected ticks
    early.bind .matched fun ticks =>
      if done then if r.min.toNat ≤ count then giveUp t pos ticks else .rejected ticks
      else (round pos ticks).bind
        (fun len tags ticks =>
          let next (ticks : Nat) : Reply :=
            (loop t r round leave fuel (count + 1) (pos + len) ticks).bind
              (fun len' tags' ticks => .matched (len + len') (tags ++ tags') ticks) .rejected
          if len = 0 then w.tick pos ticks next else next 0)
        (fun ticks =>
          if count < r.min.toNat then if count = 0 then .rejected ticks else giveUp t pos ticks
          else if r.greedy then (leave pos ticks).bind .matched (giveUp t pos)
          else giveUp t pos ticks)

/-- Does what a tree says at a position, with `go` for the trees it leads to. -/
def perform (go : Tree → Nat → Nat → Reply) (t : Tree) (pos ticks : Nat) : Reply :=
  match t.node with
  | .state _ => onward go t pos ticks
  | .applyTag tag =>
    (onward go t pos ticks).bind (fun len tags ticks => .matched len [⟨tag, pos, len, tags⟩] ticks)
      fun ticks => (giveUp t pos ticks).inside t.node
  | .subState target r =>
    match w.grammar.state? target with
    | none => .failed (.unknownState target) [] [] pos
    | some state =>
      let fuel := match r.max with
        | some max => max.toNat + 1
        | none => r.min.toNat + w.patience
      w.loop t r (go state) (onward go t) fuel 0 pos ticks
  | node =>
    match takes w.engine (w.units.drop pos) node with
    | none => .rejected ticks
    | some n =>
      (onward go t (pos + n) ticks).bind
        (fun len tags ticks => .matched (n + len) tags (if n = 0 then ticks else 0)) (giveUp t (pos + n))

/-- Walks through a tree from a position on, with some levels of nested trees to spare. -/
def walk : Nat → Tree → Nat → Nat → Reply
  | 0, _, pos, ticks => w.tick pos ticks fun _ => .failed (.depth w.limits.depth.toNat) [] [] pos
  | levels + 1, t, pos, ticks => w.tick pos ticks (w.perform (walk levels) t pos)

def evaluate (entry : String) : Option Outcome :=
  match w.grammar.state? entry with
  | none => some (.failed (.ofCause (.unknownState entry)))
  | some t => (w.walk w.limits.depth.toNat t 0 0).outcome w.units

end Interpreter

end GraphLexer
