/-
Sets of characters, as patterns build them: ranges, set operations, and the closure under case. A set
is kept as it is written, and membership is read off it.
-/
import GraphLexer.Unicode.Property

namespace GraphLexer

/-- A set of characters. -/
inductive CharSet where
  /-- no character -/
  | none
  /-- the code points between two, both included -/
  | range (low high : Nat)
  /-- the code points of some ranges -/
  | table (ranges : Unicode.Ranges)
  | union (a b : CharSet)
  | inter (a b : CharSet)
  | diff (a b : CharSet)
  | symmDiff (a b : CharSet)
  | compl (a : CharSet)
  /-- the characters that are the same as a member but for case -/
  | anyCase (a : CharSet)
  /-- the same, where only ASCII letters have a case -/
  | anyAsciiCase (a : CharSet)
  deriving DecidableEq, Repr

namespace CharSet

def single (c : Char) : CharSet :=
  range c.toNat c.toNat

def all : CharSet :=
  range 0 Unicode.lastCodePoint

def mem : CharSet → Nat → Bool
  | none, _ => false
  | range low high, n => low ≤ n && n ≤ high
  | table ranges, n => ranges.mem n
  | union a b, n => a.mem n || b.mem n
  | inter a b, n => a.mem n && b.mem n
  | diff a b, n => a.mem n && !b.mem n
  | symmDiff a b, n => a.mem n != b.mem n
  | compl a, n => !a.mem n
  | anyCase a, n => (Unicode.foldingClass n).any a.mem
  | anyAsciiCase a, n => (Unicode.asciiFoldingClass n).any a.mem

def contains (s : CharSet) (c : Char) : Bool :=
  s.mem c.toNat

end CharSet

end GraphLexer
