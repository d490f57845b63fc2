/-
Failures: why an attempt was given up, and where. A failure leaves all alternatives behind.
-/
import GraphLexer.Grammar.Node

namespace GraphLexer

/-- The kinds of failure. -/
inductive FailureKind where
  /-- too many nodes without progress, or nested too deeply -/
  | loopLimitExceeded
  /-- a state that is not defined -/
  | unknownNodeKind
  /-- a committed node none of whose transitions accepted the input -/
  | noMatch
  deriving DecidableEq, Repr

def FailureKind.name : FailureKind → String
  | .loopLimitExceeded => "LoopLimitExceeded"
  | .unknownNodeKind => "UnknownNodeKind"
  | .noMatch => "NoMatch"

/-- Why an attempt fails. -/
inductive Cause where
  /-- more ticks than the limit since the last progress -/
  | ticks (limit : Nat)
  /-- more nested nodes than the limit -/
  | depth (limit : Nat)
  | unknownState (name : String)
  /-- no transition of a committed node accepted the input -/
  | noTransition (transitions : Nat) (node : Node)
  deriving DecidableEq, Repr

namespace Cause

def kind : Cause → FailureKind
  | ticks _ => .loopLimitExceeded
  | depth _ => .loopLimitExceeded
  | unknownState _ => .unknownNodeKind
  | noTransition _ _ => .noMatch

def message : Cause → String
  | ticks limit =>
    "Exceeded the maximum amount of ticks without progressing. (" ++ toString limit ++ ")"
  | depth limit => "Exceeded the maximum depth of nested nodes. (" ++ toString limit ++ ")"
  | unknownState name => "Tried to evaluate unknown state: " ++ name
  | noTransition transitions node =>
    "None of the " ++ toString transitions ++ " possible transitions of the '" ++ node.contentLine
      ++ "' " ++ node.kindName ++ "-Node accepted the input."

end Cause

/-- A failure on its way out of an attempt: its cause, the numbers of the tags and states that were
    open, innermost first, and the position up to which input was taken. -/
structure Failure where
  cause : Cause
  tags : List Nat
  states : List Nat
  stop : Nat
  deriving DecidableEq, Repr

/-- A failure as it is reported: both stacks with the outermost name first, and the input that the
    attempt had taken. -/
structure EvalError where
  kind : FailureKind
  message : String
  tagStack : List String
  stateStack : List String
  committedInput : String
  deriving DecidableEq, Repr

/-- The report of a cause that arises before anything is open. -/
def EvalError.ofCause (cause : Cause) : EvalError :=
  ⟨cause.kind, cause.message, [], [], ""⟩

end GraphLexer
