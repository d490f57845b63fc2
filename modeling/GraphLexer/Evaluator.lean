/-
Evaluation of inputs from a state of a graph.

  * `evaluate` matches a prefix of the input in one attempt, and `evaluateTraced` also tells what
    happened;
  * `evaluateAll` makes attempts one after the other until the input is used up, nothing matches, or
    an attempt fails.

An attempt may come back to a place it has been at, with the same number of ticks, and would then go
on forever. A loop that does not do this has at most one round for each position and number of ticks,
so the rounds it is given are enough; there is no answer exactly when the attempt does not end.
-/
import GraphLexer.Attempt.Visit

namespace GraphLexer

/-- The outcome of an attempt. -/
inductive Outcome where
  | matched (len : Nat) (tags : List (Tag String))
  /-- every alternative was rejected, and none was committed to -/
  | noMatch
  | failed (e : EvalError)

/-- The outcome of all attempts on an input: what was matched, its tags, what is left, and the failure
    that stopped the last attempt. -/
structure Tokenized where
  matchedLen : Nat
  tags : List (Tag String)
  unmatchedSuffix : Option String
  lastError : Option EvalError

def Tokenized.isComplete (t : Tokenized) : Bool :=
  t.unmatchedSuffix.isNone

/-- The exit status for an outcome: 0 if all was matched, 2 after a failure, 1 if input is left. -/
def Tokenized.exitCode (t : Tokenized) : Nat :=
  if t.lastError.isSome then 2 else if t.unmatchedSuffix.isSome then 1 else 0

/-- A graph with the state to start from and the limits of each attempt. -/
structure Evaluator where
  graph : Graph
  entry : String
  limits : Limits

namespace Evaluator

/-- Evaluation from the root state with the usual limits. -/
def ofGraph (g : Graph) : Evaluator :=
  ⟨g, g.root, .default⟩

/-- The rounds beyond its lower bound that a loop is given: one for each position and number of
    ticks. -/
def patience (limits : Limits) (source : Source) : Nat :=
  (source.length + 1) * (limits.ticks.toNat + 2)

/-- A failure as it is reported, for an attempt from `start` on. -/
def report (g : Graph) (source : Source) (start : Nat) (f : Failure) : EvalError :=
  ⟨f.cause.kind, f.cause.message, (f.tags.map g.tags.name).reverse, (f.states.map g.states.name).reverse,
    source.slice start f.stop⟩

/-- The outcome of a verdict, with positions counted from `start`. -/
def outcome (g : Graph) (source : Source) (start : Nat) : Verdict → Option Outcome
  | .matched p => some (.matched p.len (Tag.maps g.tags.name (· - start) p.tags))
  | .rejected => some .noMatch
  | .failed f => some (.failed (report g source start f))
  | .unfinished => none

/-- An attempt from a position on, with what happened. -/
def attempt (e : Evaluator) (source : Source) (start : Nat) : Option Outcome × List Event :=
  match e.graph.entry e.entry with
  | none => (some (.failed (.ofCause (.unknownState e.entry))), [])
  | some entry =>
    let a : Attempt := ⟨e.graph, source, e.limits, patience e.limits source⟩
    let r := a.visit e.limits.depth.toNat entry start 0
    (outcome e.graph source start r.verdict, r.log)

/-- One attempt at the start of an input, with what happened. -/
def evaluateTraced (e : Evaluator) (input : String) : Option Outcome × List Event :=
  e.attempt (Source.ofText input) 0

def evaluate (e : Evaluator) (input : String) : Option Outcome :=
  (e.evaluateTraced input).1

/-- The outcome of all attempts that ended at `offset`. -/
def settle (source : Source) (offset : Nat) (tags : List (Tag String)) (error : Option EvalError) :
    Tokenized :=
  ⟨offset, tags, if offset < source.length then some (source.slice offset source.length) else none, error⟩

/-- Attempts from `offset` on, at most `fuel` of them. An attempt that takes nothing adds its tags and
    is the last one. -/
def attempts (e : Evaluator) (source : Source) : Nat → Nat → List (Tag String) → Option Tokenized
  | 0, offset, tags => some (settle source offset tags none)
  | fuel + 1, offset, tags =>
    if offset < source.length then
      match (e.attempt source offset).1 with
      | none => none
      | some .noMatch => some (settle source offset tags none)
      | some (.failed error) => some (settle source offset tags (some error))
      | some (.matched len found) =>
        let tags := tags ++ found.map (Tag.shift offset)
        if len = 0 then some (settle source offset tags none)
        else attempts e source fuel (offset + len) tags
    else some (settle source offset tags none)

/-- Attempts one after the other. Each but the last one takes a unit or more. -/
def evaluateAll (e : Evaluator) (input : String) : Option Tokenized :=
  let source := Source.ofText input
  e.attempts source source.length 0 []

end Evaluator

end GraphLexer
