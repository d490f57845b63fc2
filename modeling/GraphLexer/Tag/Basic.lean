/-
Tags, the structured result of a match: a named span over the input with the tags inside it.

  * `stop`, `map` and `size` are the plain operations;
  * `walk` visits a forest in preorder with a list of what is still to visit, so a deep tag needs no
    deep recursion; `preorder` and `count` are read off it. `shift` moves a tag in the same way.

The names are a parameter: a graph writes tags with the numbers of its tag table, and the result of
an evaluation holds the names themselves. Positions are numbers without a bound. In the answer of an
evaluation none is beyond the end of the input, the stops of the tags included.
-/

namespace GraphLexer

/-- A named span, in UTF-16 units, and the tags inside it. -/
structure Tag (ν : Type) where
  name : ν
  index : Nat
  len : Nat
  subTags : List (Tag ν)
  deriving Repr, BEq

namespace Tag

variable {ν μ : Type}

def stop (t : Tag ν) : Nat :=
  t.index + t.len

mutual

/-- The number of tags in a tag, itself included. -/
def size : Tag ν → Nat
  | ⟨_, _, _, subTags⟩ => 1 + sizes subTags

def sizes : List (Tag ν) → Nat
  | [] => 0
  | t :: ts => t.size + sizes ts

end

mutual

def map (name : ν → μ) (index : Nat → Nat) : Tag ν → Tag μ
  | ⟨n, i, l, subTags⟩ => ⟨name n, index i, l, maps name index subTags⟩

def maps (name : ν → μ) (index : Nat → Nat) : List (Tag ν) → List (Tag μ)
  | [] => []
  | t :: ts => t.map name index :: maps name index ts

end

theorem sizes_append (ts us : List (Tag ν)) : sizes (ts ++ us) = sizes ts + sizes us := by
  induction ts with
  | nil => simp [sizes]
  | cons t ts ih => simp [sizes, ih, Nat.add_assoc]

theorem size_eq (t : Tag ν) : t.size = 1 + sizes t.subTags := by
  cases t
  rw [size]

/-- What is to visit gets smaller when a tag is replaced by the tags inside it. -/
theorem sizes_subTags_lt (t : Tag ν) (pending : List (Tag ν)) :
    sizes (t.subTags ++ pending) < sizes (t :: pending) := by
  rw [sizes_append, sizes, size_eq]
  omega

def walk : List (Tag ν) → List (Tag ν)
  | [] => []
  | t :: pending => t :: walk (t.subTags ++ pending)
  termination_by pending => sizes pending
  decreasing_by exact sizes_subTags_lt t pending

/-- A tag and all tags inside it, parents first. -/
def preorder (t : Tag ν) : List (Tag ν) :=
  walk [t]

/-- The number of tags met on the walk through a tag. -/
def count (t : Tag ν) : Nat :=
  t.preorder.length

/-- Moves the tags of a forest, each before the tags inside it. These are moved along with what is still
    to visit, and then put back into their tag. -/
def shiftAll (offset : Nat) : List (Tag ν) → List (Tag ν)
  | [] => []
  | t :: pending =>
    let moved := shiftAll offset (t.subTags ++ pending)
    ⟨t.name, t.index + offset, t.len, moved.take t.subTags.length⟩ :: moved.drop t.subTags.length
  termination_by pending => sizes pending
  decreasing_by exact sizes_subTags_lt t pending

/-- Moves a tag and all tags inside it to the right. -/
def shift (offset : Nat) (t : Tag ν) : Tag ν :=
  (shiftAll offset [t]).headD t

end Tag

end GraphLexer
