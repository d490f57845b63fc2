/-
Renaming and moving the tags of a forest, and the names that are in it.
-/
import GraphLexer.Tag.Basic

namespace GraphLexer.Tag

variable {ν μ ξ : Type}

@[simp] theorem name_map (f : ν → μ) (g : Nat → Nat) (t : Tag ν) : (t.map f g).name = f t.name := by
  cases t; rw [map]

@[simp] theorem index_map (f : ν → μ) (g : Nat → Nat) (t : Tag ν) : (t.map f g).index = g t.index := by
  cases t; rw [map]

@[simp] theorem len_map (f : ν → μ) (g : Nat → Nat) (t : Tag ν) : (t.map f g).len = t.len := by
  cases t; rw [map]

theorem maps_eq_map (f : ν → μ) (g : Nat → Nat) (ts : List (Tag ν)) : maps f g ts = ts.map (map f g) := by
  induction ts with
  | nil => rfl
  | cons t ts ih => rw [maps, ih, List.map_cons]

theorem maps_append {f : ν → μ} {g : Nat → Nat} (ts us : List (Tag ν)) :
    maps f g (ts ++ us) = maps f g ts ++ maps f g us := by
  rw [maps_eq_map, maps_eq_map, maps_eq_map, List.map_append]

mutual

theorem map_map (f : μ → ξ) (f' : ν → μ) (g g' : Nat → Nat) : ∀ t : Tag ν,
    (t.map f' g').map f g = t.map (f ∘ f') (g ∘ g')
  | ⟨_, _, _, subTags⟩ => by simp only [map, Function.comp, maps_maps f f' g g' subTags]

/-- Forests that are renamed and moved twice. -/
theorem maps_maps (f : μ → ξ) (f' : ν → μ) (g g' : Nat → Nat) : ∀ ts : List (Tag ν),
    maps f g (maps f' g' ts) = maps (f ∘ f') (g ∘ g') ts
  | [] => rfl
  | t :: ts => by rw [maps, maps, maps, map_map f f' g g' t, maps_maps f f' g g' ts]

end

/-- Moving tags one by one, with the tags inside them put back, moves the whole forest. -/
theorem shiftAll_eq_maps (offset : Nat) (ts : List (Tag ν)) :
    shiftAll offset ts = maps id (· + offset) ts := by
  fun_induction shiftAll offset ts with
  | case1 => rfl
  | case2 t pending moved ih =>
    -- what comes back begins with the tags inside `t`, as many as there were
    have hlength : (maps id (· + offset) t.subTags).length = t.subTags.length := by
      rw [maps_eq_map, List.length_map]
    have hmoved : moved = maps id (· + offset) t.subTags ++ maps id (· + offset) pending :=
      ih.trans (maps_append _ _)
    rw [hmoved, ← hlength, List.take_left, List.drop_left, maps]
    cases t
    rw [map, id]

theorem shift_eq_map (offset : Nat) (t : Tag ν) : t.shift offset = t.map id (· + offset) := by
  rw [shift, shiftAll_eq_maps, maps, List.headD_cons]

theorem map_shift (offset : Nat) (ts : List (Tag ν)) :
    ts.map (shift offset) = maps id (· + offset) ts := by
  rw [maps_eq_map]
  exact List.map_congr_left fun t _ => shift_eq_map offset t

/-- A tag that is moved has its name and its length, and the tags inside it are moved. -/
theorem shift_eq (offset : Nat) (t : Tag ν) :
    t.shift offset = ⟨t.name, t.index + offset, t.len, t.subTags.map (shift offset)⟩ := by
  rw [shift_eq_map, map_shift]
  cases t
  rw [map, id]

theorem shift_shift (m n : Nat) (t : Tag ν) : (t.shift m).shift n = t.shift (n + m) := by
  have : (fun i : Nat => i + n) ∘ (fun i => i + m) = fun i => i + (n + m) := by
    funext i; simp only [Function.comp]; omega
  rw [shift_eq_map, shift_eq_map, shift_eq_map, map_map, this]; rfl

/-! ## Names -/

mutual

/-- The names in a tag, its own first. -/
def names : Tag ν → List ν
  | ⟨name, _, _, subTags⟩ => name :: allNames subTags

/-- The names in a forest. -/
def allNames : List (Tag ν) → List ν
  | [] => []
  | t :: ts => t.names ++ allNames ts

end

theorem allNames_append (ts us : List (Tag ν)) : allNames (ts ++ us) = allNames ts ++ allNames us := by
  induction ts with
  | nil => rfl
  | cons t ts ih => rw [List.cons_append, allNames, ih, allNames, List.append_assoc]

mutual

theorem names_map (f : ν → μ) (g : Nat → Nat) : ∀ t : Tag ν, (t.map f g).names = t.names.map f
  | ⟨_, _, _, subTags⟩ => by rw [map, names, names, allNames_maps f g subTags, List.map_cons]

/-- A forest that is renamed has its names renamed. -/
theorem allNames_maps (f : ν → μ) (g : Nat → Nat) : ∀ ts : List (Tag ν),
    allNames (maps f g ts) = (allNames ts).map f
  | [] => rfl
  | t :: ts => by rw [maps, allNames, allNames, names_map f g t, allNames_maps f g ts, List.map_append]

end

mutual

theorem map_eq_self_iff {f : ν → ν} : ∀ t : Tag ν, t.map f id = t ↔ ∀ n ∈ t.names, f n = n
  | ⟨_, _, _, subTags⟩ => by simp [map, names, maps_eq_self_iff subTags]

/-- Renaming leaves a forest as it is exactly if it leaves its names as they are. -/
theorem maps_eq_self_iff {f : ν → ν} : ∀ ts : List (Tag ν),
    maps f id ts = ts ↔ ∀ n ∈ allNames ts, f n = n
  | [] => by simp [maps, allNames]
  | t :: ts => by
    simp [maps, allNames, map_eq_self_iff t, maps_eq_self_iff ts, or_imp, forall_and]

end

end GraphLexer.Tag
