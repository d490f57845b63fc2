/-
Sets of characters as ranges of code points, and their written form: two hexadecimal numbers joined
by a hyphen, or one for a single character, separated by spaces and line breaks.
-/

namespace GraphLexer.Unicode

/-- Ranges of code points, both ends included. -/
abbrev Ranges := List (Nat × Nat)

/-- Whether a code point is in one of the ranges. -/
def Ranges.mem (rs : Ranges) (n : Nat) : Bool :=
  rs.any fun (low, high) => low ≤ n && n ≤ high

/-- The value of an upper-case hexadecimal digit. -/
def hexValue (c : Char) : Nat :=
  if c.isDigit then c.toNat - '0'.toNat else c.toNat - 'A'.toNat + 10

/-- What has been read of a table: the ranges, last first, the start of the range that is being read,
    and its last number so far, if any. -/
structure Scan where
  found : Ranges
  start : Option Nat
  current : Option Nat

def Scan.close (s : Scan) : Scan :=
  match s.current with
  | some last => ⟨(s.start.getD last, last) :: s.found, none, none⟩
  | none => s

def Scan.step (s : Scan) (c : Char) : Scan :=
  if c = ' ' ∨ c = '\n' then s.close
  else if c = '-' then ⟨s.found, s.current, none⟩
  else ⟨s.found, s.start, some (16 * s.current.getD 0 + hexValue c)⟩

def Ranges.parse (table : String) : Ranges :=
  (table.toList.foldl Scan.step ⟨[], none, none⟩).close.found.reverse

/-- The ranges of the first row of a table that has a name. -/
def lookup? (table : List (List String × String)) (name : String) : Option Ranges :=
  (table.find? fun (names, _) => names.contains name).map fun (_, ranges) => Ranges.parse ranges

end GraphLexer.Unicode
