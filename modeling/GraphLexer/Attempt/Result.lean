/-
Results on the way through an attempt: what a part of the attempt comes to, how many ticks have passed
since the last progress, and what happened, in order.

`bind` goes on after a match or after a rejection; a failure, and a loop that does not end, stop
everything.
-/
import GraphLexer.Attempt.Failure
import GraphLexer.Tag.Basic

namespace GraphLexer

/-- What happens in an attempt. The visit of a node is opened by `enter` and closed by `matched`,
    `rejected` or `failed`. -/
inductive Event where
  | enter (node pos : Nat)
  | matched (node pos len : Nat)
  | rejected (node pos : Nat)
  | failed (node pos : Nat) (kind : FailureKind)
  /-- an invocation has finished a round: how many there were, and how much they took -/
  | repeated (node count consumed : Nat)
  /-- the node's own condition took units, before its transitions are tried -/
  | accepted (node pos len : Nat)
  deriving DecidableEq, Repr

/-- What a node and everything after it matched: how much, and the tags with the numbers of their
    names and with positions in the whole input. -/
structure Partial where
  len : Nat
  tags : List (Tag Nat)

namespace Partial

def empty : Partial :=
  ⟨0, []⟩

/-- What follows an earlier match, with that match before it. -/
def after (first next : Partial) : Partial :=
  ⟨first.len + next.len, first.tags ++ next.tags⟩

end Partial

/-- What a part of an attempt comes to. -/
inductive Verdict where
  | matched (p : Partial)
  | rejected
  | failed (f : Failure)
  /-- a loop was cut off after the rounds it was given -/
  | unfinished

/-- A verdict, the ticks after it, and what happened on the way. -/
structure Result where
  verdict : Verdict
  ticks : Nat
  log : List Event

namespace Result

def matched (p : Partial) (ticks : Nat) : Result :=
  ⟨.matched p, ticks, []⟩

def rejected (ticks : Nat) : Result :=
  ⟨.rejected, ticks, []⟩

def failed (cause : Cause) (pos ticks : Nat) : Result :=
  ⟨.failed ⟨cause, [], [], pos⟩, ticks, []⟩

def unfinished (ticks : Nat) : Result :=
  ⟨.unfinished, ticks, []⟩

def after (log : List Event) (r : Result) : Result :=
  ⟨r.verdict, r.ticks, log ++ r.log⟩

def bind (r : Result) (onMatch : Partial → Nat → Result) (onReject : Nat → Result) : Result :=
  match r.verdict with
  | .matched p => (onMatch p r.ticks).after r.log
  | .rejected => (onReject r.ticks).after r.log
  | .failed _ => r
  | .unfinished => r

def orElse (r : Result) (onReject : Nat → Result) : Result :=
  r.bind matched onReject

def mapFailure (f : Failure → Failure) (r : Result) : Result :=
  match r.verdict with
  | .failed failure => ⟨.failed (f failure), r.ticks, r.log⟩
  | _ => r

/-- The event that closes the visit of a node. -/
def closing (node pos : Nat) : Verdict → List Event
  | .matched p => [.matched node pos p.len]
  | .rejected => [.rejected node pos]
  | .failed f => [.failed node pos f.cause.kind]
  | .unfinished => []

def visited (node pos : Nat) (r : Result) : Result :=
  ⟨r.verdict, r.ticks, .enter node pos :: r.log ++ closing node pos r.verdict⟩

end Result

end GraphLexer
