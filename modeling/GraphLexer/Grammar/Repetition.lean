/-
How often a state is invoked: a range of counts, and whether another round is preferred to leaving.
-/

namespace GraphLexer

/-- A range of repetitions. `max = none` is unbounded. -/
structure Repetition where
  greedy : Bool
  min : UInt32
  max : Option UInt32
  deriving DecidableEq, Repr

namespace Repetition

/-- Exactly once, the repetition of an invocation that states none. -/
def once : Repetition :=
  ⟨false, 1, some 1⟩

instance : Inhabited Repetition := ⟨once⟩

def optional (greedy : Bool) : Repetition :=
  ⟨greedy, 0, some 1⟩

def zeroOrMore (greedy : Bool) : Repetition :=
  ⟨greedy, 0, none⟩

def oneOrMore (greedy : Bool) : Repetition :=
  ⟨greedy, 1, none⟩

/-- The range in the notation of patterns; nothing for exactly once. -/
def range (r : Repetition) : String :=
  match r.min.toNat, r.max.map UInt32.toNat with
  | 1, some 1 => ""
  | 0, some 1 => " ?"
  | 0, none => " *"
  | 1, none => " +"
  | min, some max => "\x7b" ++ toString min ++ "," ++ toString max ++ "\x7d"
  | min, none => "\x7b" ++ toString min ++ ",\x7d"

/-- The repetition in the notation of patterns: its range, marked when leaving is preferred and there
    is a choice. -/
def suffix (r : Repetition) : String :=
  if r.max ≠ some r.min ∧ ¬ r.greedy then r.range ++ "?" else r.range

end Repetition

end GraphLexer
