/-
Listings of grammars: a line for the root, then each state after a blank line, with one line for each
node, indented by depth. A committed node is marked.
-/
import GraphLexer.Grammar.Basic
import GraphLexer.Palette

namespace GraphLexer

/-- What a node holds, as a listing shows it. -/
def Node.label (palette : Palette) : Node → String
  | literal text => "\"" ++ palette.text (Text.escape text) ++ "\""
  | regex pattern => "/" ++ palette.text (Text.escape pattern) ++ "/"
  | unicode min max => boundsText min max
  | state name => palette.name name
  | subState target repetition => palette.name (subState target repetition).content
  | applyTag tag => palette.name tag

namespace Tree

def line (palette : Palette) (depth : Nat) (commit : Bool) (node : Node) : String :=
  "".pushn ' ' (2 * depth)
    ++ (if commit then palette.red ++ "!" ++ palette.reset ++ " " else "")
    ++ palette.faint node.kindName ++ " " ++ node.label palette ++ "\n"

mutual

def listing (palette : Palette) (depth : Nat) : Tree → String
  | ⟨commit, node, transitions⟩ =>
    line palette depth commit node ++ listings palette (depth + 1) transitions

def listings (palette : Palette) (depth : Nat) : List Tree → String
  | [] => ""
  | t :: ts => listing palette depth t ++ listings palette depth ts

end

end Tree

def Grammar.listing (palette : Palette) (g : Grammar) : String :=
  palette.faint "root:" ++ " " ++ palette.name g.root ++ "\n"
    ++ String.join (g.states.map fun t => "\n" ++ t.listing palette 0)

end GraphLexer
