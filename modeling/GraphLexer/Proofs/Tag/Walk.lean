/-
The walk through a forest.

The walk keeps what is still to visit in one list, so it goes through forests one after the other
(`walk_append`), and through a tag before the tags inside it (`preorder_eq`). It visits as many tags as
there are (`length_walk`), and in the order of their names in the forest (`map_name_walk`).
-/
import GraphLexer.Proofs.Tag.Maps

namespace GraphLexer.Tag

variable {ν : Type}

@[simp] theorem walk_nil : walk ([] : List (Tag ν)) = [] := by
  rw [walk]

theorem walk_append (ts us : List (Tag ν)) : walk (ts ++ us) = walk ts ++ walk us := by
  fun_induction walk ts with
  | case1 => rfl
  | case2 t pending ih => rw [List.cons_append, walk, ← List.append_assoc, ih, List.cons_append]

/-- The walk visits a tag, what is in it, and then the tags after it. -/
theorem walk_cons (t : Tag ν) (ts : List (Tag ν)) : walk (t :: ts) = t :: (walk t.subTags ++ walk ts) := by
  rw [walk, walk_append]

/-- A walk goes through what is to visit tag by tag. -/
theorem walk_eq_flatMap (pending : List (Tag ν)) : walk pending = pending.flatMap preorder := by
  induction pending with
  | nil => rw [walk_nil, List.flatMap_nil]
  | cons t pending ih => rw [List.flatMap_cons, ← ih, preorder, ← walk_append, List.singleton_append]

theorem preorder_eq (t : Tag ν) : t.preorder = t :: t.subTags.flatMap preorder := by
  rw [preorder, walk_cons, walk_nil, List.append_nil, walk_eq_flatMap]

theorem length_walk (ts : List (Tag ν)) : (walk ts).length = sizes ts := by
  fun_induction walk ts with
  | case1 => rfl
  | case2 t pending ih =>
    rw [List.length_cons, ih, sizes_append, sizes, size_eq]
    omega

theorem count_eq_size (t : Tag ν) : t.count = t.size := by
  rw [count, preorder, length_walk, sizes, sizes, Nat.add_zero]

/-- The number of tags met on the walks through several tags. -/
def total (ts : List (Tag ν)) : Nat :=
  ts.foldr (count · + ·) 0

theorem total_eq_sizes (ts : List (Tag ν)) : total ts = sizes ts := by
  induction ts with
  | nil => rfl
  | cons t ts ih => rw [total, List.foldr_cons, ← total, ih, count_eq_size, sizes]

theorem count_eq (t : Tag ν) : t.count = 1 + total t.subTags := by
  rw [count_eq_size, size_eq, total_eq_sizes]

theorem sizes_pos {ts : List (Tag ν)} (h : ts ≠ []) : 0 < sizes ts := by
  obtain ⟨t, ts, rfl⟩ := List.exists_cons_of_ne_nil h
  rw [sizes, size_eq]
  omega

theorem map_name_walk (ts : List (Tag ν)) : (walk ts).map name = allNames ts := by
  fun_induction walk ts with
  | case1 => rfl
  | case2 t pending ih =>
    cases t
    rw [List.map_cons, ih, allNames_append, allNames, names, List.cons_append]

end GraphLexer.Tag
