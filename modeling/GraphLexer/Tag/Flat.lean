/-
The flat form of a tag forest, as engines exchange it: a list in postorder, where each entry carries
its depth (`layer`) and the number of its name.

    A(B, C(D))  =>  B@1  D@2  C@1  A@0

`flatten` writes the form. `unflatten` reads any list: the layer of the last entry is the root
layer, every entry of that layer is a root, and the entries before it back to the previous root are
what is inside it.
-/
import GraphLexer.Tag.Basic

namespace GraphLexer

/-- A tag without its children. -/
structure FlatTag where
  layer : Nat
  node : Nat
  index : Nat
  len : Nat
  deriving DecidableEq, Repr

namespace FlatTag

mutual

def ofTag (indexOf : String → Nat) (layer : Nat) : Tag String → List FlatTag
  | ⟨name, index, len, subTags⟩ =>
    ofForest indexOf (layer + 1) subTags ++ [⟨layer, indexOf name, index, len⟩]

def ofForest (indexOf : String → Nat) (layer : Nat) : List (Tag String) → List FlatTag
  | [] => []
  | t :: ts => ofTag indexOf layer t ++ ofForest indexOf layer ts

end

def flatten (indexOf : String → Nat) (tags : List (Tag String)) : List FlatTag :=
  ofForest indexOf 0 tags

/-- Cuts a list into its entries of the layer `root`, each with the entries before it back to the
    previous one; `inside` holds those met so far. -/
def groups (root : Nat) (inside : List FlatTag) : List FlatTag → List (List FlatTag × FlatTag)
  | [] => []
  | t :: ts => if t.layer = root then (inside, t) :: groups root [] ts else groups root (inside ++ [t]) ts

/-- The forest of a list with at most `depth` layers. -/
def toForest (nameOf : Nat → String) : Nat → List FlatTag → List (Tag String)
  | 0, _ => []
  | depth + 1, flat =>
    match flat.getLast? with
    | none => []
    | some last =>
      (groups last.layer [] flat).map fun (inside, t) =>
        ⟨nameOf t.node, t.index, t.len, toForest nameOf depth inside⟩

/-- The forest of a flat form. A list has no more layers than entries. -/
def unflatten (nameOf : Nat → String) (flat : List FlatTag) : List (Tag String) :=
  toForest nameOf flat.length flat

end FlatTag

end GraphLexer
