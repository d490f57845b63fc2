/-
Results in flat form, as engines exchange them: tags in the flat form of forests, and stacks of the
numbers of names. `resolve` puts the names back.
-/
import GraphLexer.Attempt.Failure
import GraphLexer.Tag.Flat

namespace GraphLexer

/-- The kinds of failure that engines tell each other. -/
inductive FlatErrorKind where
  | infiniteLoop
  | noMatch
  | unknownNodeKind
  deriving DecidableEq, Repr

/-- The kind that engines are told. -/
def FailureKind.flat : FailureKind → FlatErrorKind
  | .loopLimitExceeded => .infiniteLoop
  | .noMatch => .noMatch
  | .unknownNodeKind => .unknownNodeKind

/-- The kind of failure that an engine has told. -/
def FlatErrorKind.kind : FlatErrorKind → FailureKind
  | .infiniteLoop => .loopLimitExceeded
  | .noMatch => .noMatch
  | .unknownNodeKind => .unknownNodeKind

instance : Coe FailureKind FlatErrorKind :=
  ⟨FailureKind.flat⟩

/-- The name of a kind among engines. -/
def FailureKind.flatName : FailureKind → String
  | .loopLimitExceeded => "InfiniteLoop"
  | .noMatch => "NoMatch"
  | .unknownNodeKind => "UnknownNodeKind"

def FlatErrorKind.flatName (kind : FlatErrorKind) : String :=
  kind.kind.flatName

@[simp]
theorem FailureKind.kind_flat (kind : FailureKind) : kind.flat.kind = kind := by
  cases kind <;> rfl

@[simp]
theorem FlatErrorKind.flat_kind (kind : FlatErrorKind) : kind.kind.flat = kind := by
  cases kind <;> rfl

/-- A failure whose stacks, outermost first, hold the numbers of names. -/
structure FlatError where
  kind : FlatErrorKind
  message : String
  tagStack : List Nat
  stateStack : List Nat
  committedInput : String
  deriving DecidableEq, Repr

/-- A result in flat form. A rejection matches nothing and has neither tags nor failure. -/
structure FlatResult where
  matchLen : Nat
  tags : List FlatTag
  error : Option FlatError
  deriving DecidableEq, Repr

/-- A result whose names are put back. -/
structure Resolved where
  matchLen : Nat
  tags : List (Tag String)
  error : Option EvalError

namespace FlatResult

/-- The number that stands for a name without a number. -/
def noIndex : Nat := 4294967295

def rejected : FlatResult :=
  ⟨0, [], none⟩

/-- The name of a number in a table, the last one if there are several, and "?" if there is none. -/
def nameIn (names : List (Nat × String)) (index : Nat) : String :=
  (((names.filter (·.1 == index)).getLast?).map (·.2)).getD "?"

def resolve (r : FlatResult) (tagNames stateNames : List (Nat × String)) : Resolved where
  matchLen := r.matchLen
  tags := FlatTag.unflatten (nameIn tagNames) r.tags
  error := r.error.map fun e =>
    ⟨e.kind.kind, e.message, e.tagStack.map (nameIn tagNames), e.stateStack.map (nameIn stateNames),
      e.committedInput⟩

end FlatResult

end GraphLexer
