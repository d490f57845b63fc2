/-
The input of an evaluation, addressed by UTF-16 units. Literals and bounds are compared with units,
patterns run on the view, a text of its own with one character for each unit.

Three tables have a place for each unit: the units, where the character for a unit starts in the view,
and where a unit starts in the text, unless it is within a pair. The last two also have a place for the
end. Offsets count bytes.

`slice` cuts the input between two positions: at character boundaries it cuts the text itself, and
otherwise it decodes the units, a half of a pair becoming U+FFFD.
-/
import GraphLexer.Text.Units

namespace GraphLexer

/-- The units of characters, and the byte offset of each unit and of the end; none within a pair. -/
def unitTables (byte : Nat) : List Char → List UInt16 × List (Option Nat)
  | [] => ([], [some byte])
  | c :: cs =>
    let rest := unitTables (byte + c.utf8Size) cs
    (Text.charUnits c ++ rest.1,
      some byte :: if Text.charLength c = 2 then none :: rest.2 else rest.2)

/-- A view with the byte offset of each character and of the end, when `units` are put after `view`. -/
def viewTables (view : String) (offsets : Array Nat) : List UInt16 → String × Array Nat
  | [] => (view, offsets.push view.utf8ByteSize)
  | u :: us => viewTables (view.push (Text.viewChar u)) (offsets.push view.utf8ByteSize) us

/-- An input with its units, its view, and the byte offsets in both texts. -/
structure Source where
  text : String
  units : Array UInt16
  view : String
  viewOffsets : Array Nat
  byteOffsets : Array (Option Nat)

namespace Source

def ofText (text : String) : Source :=
  let tables := unitTables 0 text.toList
  let (view, viewOffsets) := viewTables "" #[] tables.1
  ⟨text, tables.1.toArray, view, viewOffsets, tables.2.toArray⟩

def length (s : Source) : Nat :=
  s.units.size

def unitsFrom (s : Source) (pos : Nat) : Option (List UInt16) :=
  if pos ≤ s.units.size then some (s.units.toList.drop pos) else none

def viewFrom (s : Source) (pos : Nat) : Option (List Char) :=
  (s.viewOffsets[pos]?).map fun byte => Text.dropBytes byte s.view.toList

def unit? (s : Source) (pos : Nat) : Option UInt16 :=
  s.units[pos]?

def hasUnitsAt (s : Source) (pos : Nat) (us : List UInt16) : Bool :=
  match s.unitsFrom pos with
  | some rest => us.isPrefixOf rest
  | none => false

/-- The input between two positions, as far as it goes. -/
def slice (s : Source) (start stop : Nat) : String :=
  let stop := min stop s.length
  let start := min start stop
  match s.byteOffsets[start]?, s.byteOffsets[stop]? with
  | some (some a), some (some b) => Text.bytesBetween s.text a b
  | _, _ => Text.ofUnits (((s.unitsFrom start).getD []).take (stop - start))

end Source

end GraphLexer
