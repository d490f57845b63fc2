/-
Name tables only grow: a name keeps its number in every table that is made from the one it is in. A table
holds the names that it has met up to repetition, in the order in which it has met them (`eraseDups_intern`).
-/
import GraphLexer.NameTable

namespace GraphLexer.NameTable

variable {t t' t'' : NameTable} {name : String} {i : Nat}

/-- A table that begins another one. -/
def Begins (t t' : NameTable) : Prop :=
  t.names <+: t'.names

theorem Begins.refl (t : NameTable) : t.Begins t := List.prefix_rfl

theorem Begins.trans (h : t.Begins t') (h' : t'.Begins t'') : t.Begins t'' := List.IsPrefix.trans h h'

theorem Begins.name? (h : t.Begins t') (hi : t.name? i = some name) : t'.name? i = some name := by
  obtain ⟨rest, h⟩ := h
  rw [NameTable.name?, ← h]
  exact List.getElem?_append_left (List.getElem?_eq_some_iff.1 hi).1 ▸ hi

theorem Begins.idxOf (h : t.Begins t') (hm : name ∈ t.names) :
    t'.names.idxOf name = t.names.idxOf name := by
  obtain ⟨rest, h⟩ := h
  rw [← h, List.idxOf_append, if_pos hm]

theorem name_of_name? (h : t.name? i = some name) : t.name i = name := by
  rw [NameTable.name, h]; rfl

theorem begins_intern (t : NameTable) (name : String) : t.Begins (t.intern name).1 := by
  unfold intern; split
  · exact .refl t
  · exact List.prefix_append _ _

/-- The number that a name is given leads back to it. -/
theorem name?_intern (t : NameTable) (name : String) :
    (t.intern name).1.name? (t.intern name).2 = some name := by
  unfold intern; split
  · next h => exact List.getElem?_eq_some_iff.2 ⟨List.idxOf_lt_length_of_mem h, List.getElem_idxOf _⟩
  · exact List.getElem?_concat_length

/-- A name has at most one number. -/
theorem eq_of_name? {j : Nat} (hi : t.name? i = some name) (hj : t.name? j = some name) : i = j := by
  obtain ⟨_, hi⟩ := List.getElem?_eq_some_iff.1 hi
  obtain ⟨_, hj⟩ := List.getElem?_eq_some_iff.1 hj
  exact (List.getElem_inj t.nodup).1 (hi.trans hj.symm)

theorem find?_eq_some : t.find? name = some i ↔ t.name? i = some name := by
  rw [find?, List.idxOf?_eq_some_iff]
  constructor
  · rintro ⟨h, he, _⟩
    exact List.getElem?_eq_some_iff.2 ⟨h, he⟩
  · intro h
    obtain ⟨hi, he⟩ := List.getElem?_eq_some_iff.1 h
    refine ⟨hi, he, fun j hj hj' => ?_⟩
    have := eq_of_name? h (List.getElem?_eq_some_iff.2 ⟨by omega, hj'⟩)
    omega

theorem find?_eq_none : t.find? name = none ↔ name ∉ t.names :=
  List.idxOf?_eq_none_iff

theorem length_entries (t : NameTable) : t.entries.length = t.size := by
  simp [entries, size]

theorem lt_size (h : t.name? i = some name) : i < t.size :=
  (List.getElem?_eq_some_iff.1 h).1

theorem mem_entries : (i, name) ∈ t.entries ↔ t.name? i = some name := by
  rw [entries, List.mem_map]
  constructor
  · rintro ⟨⟨name', i'⟩, hmem, heq⟩
    cases heq
    exact List.mem_zipIdx_iff_getElem?.1 hmem
  · intro h
    exact ⟨(name, i), List.mem_zipIdx_iff_getElem?.2 h, rfl⟩

/-! ## Names in the order in which they are met -/

theorem eraseDups_of_nodup {l : List String} (h : l.Nodup) : l.eraseDups = l := by
  induction l with
  | nil => rfl
  | cons a l ih =>
    rw [List.nodup_cons] at h
    have hne : ∀ b ∈ l, (!b == a) = true := by
      intro b hb
      have : b ≠ a := fun he => h.1 (he ▸ hb)
      simpa using this
    rw [List.eraseDups_cons, List.filter_eq_self.2 hne, ih h.2]

theorem names_intern (t : NameTable) (name : String) :
    (t.intern name).1.names = if name ∈ t.names then t.names else t.names ++ [name] := by
  unfold intern
  split <;> rfl

/-- A table with one more name holds the names up to repetition. -/
theorem eraseDups_intern (t : NameTable) (name : String) (rest : List String) :
    ((t.intern name).1.names ++ rest).eraseDups = (t.names ++ name :: rest).eraseDups := by
  rw [names_intern]
  split
  · next hmem =>
    rw [List.eraseDups_append, List.eraseDups_append, List.cons_removeAll]
    simp [hmem]
  · rw [List.append_assoc, List.singleton_append]

end GraphLexer.NameTable
