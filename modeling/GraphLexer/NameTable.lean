/-
Name tables. A table numbers names in the order of their first appearance, and a number never
changes once it is given.

  * `intern` adds a name, or finds it;
  * `find?` and `name?` go from a name to its number and back;
  * `serve` answers requests as they are made from outside, where a number has 32 bits.
-/

namespace GraphLexer

/-- Distinct names, each with its position as its number. -/
structure NameTable where
  names : List String
  nodup : names.Nodup
  deriving DecidableEq, Repr

namespace NameTable

def empty : NameTable :=
  ⟨[], List.nodup_nil⟩

instance : Inhabited NameTable := ⟨empty⟩

def find? (t : NameTable) (name : String) : Option Nat :=
  t.names.idxOf? name

def name? (t : NameTable) (index : Nat) : Option String :=
  t.names[index]?

/-- The name of a number, empty for a number that is not in use. -/
def name (t : NameTable) (index : Nat) : String :=
  (t.name? index).getD ""

def size (t : NameTable) : Nat :=
  t.names.length

def push (t : NameTable) (name : String) (h : name ∉ t.names) : NameTable :=
  ⟨t.names ++ [name], by
    rw [List.nodup_append]
    refine ⟨t.nodup, by simp, ?_⟩
    intro a ha b hb
    rw [List.mem_singleton] at hb
    rintro rfl
    exact h (hb ▸ ha)⟩

/-- The table with a name in it, and the name's number. -/
def intern (t : NameTable) (name : String) : NameTable × Nat :=
  if h : name ∈ t.names then (t, t.names.idxOf name) else (t.push name h, t.size)

def entries (t : NameTable) : List (Nat × String) :=
  t.names.zipIdx.map fun (name, index) => (index, name)

/-- What is asked of a table. -/
inductive Request where
  | intern (name : String)
  | find (name : String)
  | name (index : UInt32)
  | size
  | entries
  deriving DecidableEq, Repr

/-- What a table says to a request. -/
inductive Reply where
  | index (index : UInt32)
  | found (index : Option UInt32)
  | name (name : Option String)
  | size (n : Nat)
  | entries (entries : List (UInt32 × String))
  deriving DecidableEq, Repr

/-- The table after a request, and the reply to it. -/
def serve (t : NameTable) : Request → NameTable × Reply
  | .intern name =>
    let (t, index) := t.intern name
    (t, .index (.ofNat index))
  | .find name => (t, .found ((t.find? name).map .ofNat))
  | .name index => (t, .name (t.name? index.toNat))
  | .size => (t, .size t.size)
  | .entries => (t, .entries (t.entries.map fun (index, name) => (.ofNat index, name)))

end NameTable

end GraphLexer
