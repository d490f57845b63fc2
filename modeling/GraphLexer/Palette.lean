/-
Colours of the output: names are blue, matched text is green, failures are red, positions and
structure are dim. `Palette.off` writes no escape codes at all.
-/

namespace GraphLexer

/-- The escape codes in use. -/
structure Palette where
  blue : String
  green : String
  red : String
  dim : String
  reset : String
  deriving DecidableEq, Repr

namespace Palette

def on : Palette :=
  ⟨"\x1b[34m", "\x1b[32m", "\x1b[31m", "\x1b[2m", "\x1b[0m"⟩

def off : Palette :=
  ⟨"", "", "", "", ""⟩

def ofBool (colored : Bool) : Palette :=
  if colored then on else off

def name (p : Palette) (s : String) : String :=
  p.blue ++ s ++ p.reset

def text (p : Palette) (s : String) : String :=
  p.dim ++ p.green ++ s ++ p.reset

def faint (p : Palette) (s : String) : String :=
  p.dim ++ s ++ p.reset

end Palette

end GraphLexer
