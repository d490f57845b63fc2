/-
Listings of tags: one line for each tag, in preorder, indented by depth. With the source at hand a
line ends in the quoted text of its tag, cut to the source.
-/
import GraphLexer.Palette
import GraphLexer.Tag.Basic
import GraphLexer.Grammar.Node
import GraphLexer.Text.Units

namespace GraphLexer

namespace Tag

def quoted (palette : Palette) (source : List UInt16) (t : Tag String) : String :=
  let last := min t.stop source.length
  let first := min t.index last
  let text := Text.ofUnits ((source.drop first).take (last - first))
  "\"" ++ palette.text (Text.escape text) ++ "\""

def line (palette : Palette) (source : Option (List UInt16)) (depth : Nat) (t : Tag String) : String :=
  "".pushn ' ' (2 * depth) ++ palette.name t.name ++ " "
    ++ palette.faint (toString t.index ++ ".." ++ toString t.stop)
    ++ match source with
      | none => ""
      | some units => " " ++ t.quoted palette units

mutual

/-- The lines of a tag and the tags inside it. -/
def lines (palette : Palette) (source : Option (List UInt16)) (depth : Nat) : Tag String → List String
  | ⟨name, index, len, subTags⟩ =>
    line palette source depth ⟨name, index, len, subTags⟩ :: forestLines palette source (depth + 1) subTags

def forestLines (palette : Palette) (source : Option (List UInt16)) (depth : Nat) :
    List (Tag String) → List String
  | [] => []
  | t :: ts => lines palette source depth t ++ forestLines palette source depth ts

end

def listing (palette : Palette) (source : Option String) (tags : List (Tag String)) : String :=
  "\n".intercalate (forestLines palette (source.map Text.units) 0 tags)

end Tag

end GraphLexer
