/-
A forest is read back from its flat form.

In the flat form of a forest the entries of the root layer are the roots, and what is inside a root
stands right before it, one layer deeper. So cutting the list at its root layer gives the roots with what
is inside them (`groups_ofForest`).

A list is read by its groups (`unflatten_eq`); each of them is a piece of the list
(`infix_of_mem_groups`), so the bound on the layers that are read plays no part. A forest that is written
and read again has its names changed and nothing else (`unflatten_flatten_eq_maps`): it comes back exactly
if the numbers lead back to the names (`unflatten_flatten_iff`).
-/
import GraphLexer.Proofs.Tag.Maps
import GraphLexer.Tag.Flat

namespace GraphLexer.FlatTag

variable (indexOf : String → Nat)

theorem ofTag_eq (layer : Nat) (t : Tag String) : ofTag indexOf layer t =
    ofForest indexOf (layer + 1) t.subTags ++ [⟨layer, indexOf t.name, t.index, t.len⟩] := by
  cases t
  rw [ofTag]

theorem layer_getLast? (layer : Nat) (t : Tag String) (ts : List (Tag String)) :
    (ofForest indexOf layer (t :: ts)).getLast?.map FlatTag.layer = some layer := by
  induction ts generalizing t with
  | nil =>
    rw [ofForest, ofForest, List.append_nil, ofTag_eq, List.getLast?_concat]
    rfl
  | cons u us ih =>
    obtain ⟨last, hlast, hlayer⟩ := Option.map_eq_some_iff.1 (ih u)
    rw [ofForest, List.getLast?_append, hlast]
    exact congrArg some hlayer

mutual

theorem le_layer_ofTag : ∀ {layer : Nat} {t : Tag String}, ∀ e ∈ ofTag indexOf layer t, layer ≤ e.layer
  | layer, ⟨name, index, len, subTags⟩, e, he => by
    rw [ofTag, List.mem_append, List.mem_singleton] at he
    rcases he with he | rfl
    · exact Nat.le_of_succ_le (le_layer_ofForest e he)
    · exact Nat.le_refl _

theorem le_layer_ofForest : ∀ {layer : Nat} {ts : List (Tag String)},
    ∀ e ∈ ofForest indexOf layer ts, layer ≤ e.layer
  | _, t :: ts, e, he => by
    rw [ofForest, List.mem_append] at he
    rcases he with he | he
    · exact le_layer_ofTag e he
    · exact le_layer_ofForest e he

end

mutual

theorem ofTag_map (f : String → String) (g : Nat → Nat) : ∀ (layer : Nat) (t : Tag String),
    ofTag indexOf layer (t.map f g) =
      (ofTag (indexOf ∘ f) layer t).map fun e => { e with index := g e.index }
  | layer, ⟨name, index, len, subTags⟩ => by
    rw [Tag.map, ofTag, ofTag, ofForest_maps f g (layer + 1) subTags, List.map_append]
    rfl

/-- A forest that is renamed and moved is written entry by entry in the same way. -/
theorem ofForest_maps (f : String → String) (g : Nat → Nat) : ∀ (layer : Nat) (ts : List (Tag String)),
    ofForest indexOf layer (Tag.maps f g ts) =
      (ofForest (indexOf ∘ f) layer ts).map fun e => { e with index := g e.index }
  | _, [] => rfl
  | layer, t :: ts => by
    rw [Tag.maps, ofForest, ofForest, ofTag_map f g layer t, ofForest_maps f g layer ts, List.map_append]

end

/-! ## Cutting -/

/-- Entries of other layers are gathered until the next root. -/
theorem groups_append {root : Nat} {entries : List FlatTag} (h : ∀ e ∈ entries, e.layer ≠ root)
    (inside rest : List FlatTag) :
    groups root inside (entries ++ rest) = groups root (inside ++ entries) rest := by
  induction entries generalizing inside with
  | nil => rw [List.nil_append, List.append_nil]
  | cons e entries ih =>
    have hrest : ∀ e ∈ entries, e.layer ≠ root := fun e he => h e (by simp [he])
    rw [List.cons_append, groups, if_neg (h e (by simp)), ih hrest, List.append_assoc]
    rfl

/-- The groups of a forest are its roots, each with the flat form of what is inside it. -/
theorem groups_ofForest (root : Nat) (ts : List (Tag String)) :
    groups root [] (ofForest indexOf root ts) =
      ts.map fun t => (ofForest indexOf (root + 1) t.subTags, ⟨root, indexOf t.name, t.index, t.len⟩) := by
  induction ts with
  | nil => rfl
  | cons t ts ih =>
    have hinside : ∀ e ∈ ofForest indexOf (root + 1) t.subTags, e.layer ≠ root := by
      intro e he
      have := le_layer_ofForest indexOf e he
      omega
    rw [ofForest, ofTag_eq, List.append_assoc, groups_append hinside, List.singleton_append, groups,
      if_pos rfl, ih, List.map_cons]
    rfl

/-- A list whose last entry is a root falls into its groups, nothing before or after them. -/
theorem flatMap_groups {root : Nat} : ∀ {flat : List FlatTag} (inside : List FlatTag),
    flat.getLast?.map FlatTag.layer = some root →
    (groups root inside flat).flatMap (fun g => g.1 ++ [g.2]) = inside ++ flat
  | [], _, h => by cases h
  | [t], inside, h => by
    have ht : t.layer = root := Option.some.inj h
    simp [groups, ht]
  | t :: u :: us, inside, h => by
    rw [List.getLast?_cons_cons] at h
    rw [groups]
    split
    · rw [List.flatMap_cons, flatMap_groups [] h, List.nil_append, List.append_assoc]
      rfl
    · rw [flatMap_groups (inside ++ [t]) h, List.append_assoc]
      rfl

theorem eq_flatMap_groups {last : FlatTag} {flat : List FlatTag} (h : flat.getLast? = some last) :
    flat = (groups last.layer [] flat).flatMap fun g => g.1 ++ [g.2] :=
  (flatMap_groups [] (congrArg (Option.map FlatTag.layer) h)).symm

theorem infix_of_mem_groups {last : FlatTag} {flat : List FlatTag} {g : List FlatTag × FlatTag}
    (h : flat.getLast? = some last) (hg : g ∈ groups last.layer [] flat) : g.1 ++ [g.2] <:+: flat := by
  obtain ⟨before, after, hsplit⟩ := List.append_of_mem hg
  have hall := eq_flatMap_groups h
  rw [hsplit, List.flatMap_append, List.flatMap_cons, ← List.append_assoc] at hall
  exact ⟨_, _, hall.symm⟩

theorem length_of_mem_groups {last : FlatTag} {flat : List FlatTag} {g : List FlatTag × FlatTag}
    (h : flat.getLast? = some last) (hg : g ∈ groups last.layer [] flat) : g.1.length < flat.length := by
  have := (infix_of_mem_groups h hg).length_le
  rw [List.length_append, List.length_singleton] at this
  omega

/-! ## Reading -/

variable {nameOf : Nat → String}

/-- The layers that are allowed play no part when there is one for each entry. -/
theorem toForest_depth : ∀ {depth depth' : Nat} {flat : List FlatTag}, flat.length ≤ depth →
    flat.length ≤ depth' → toForest nameOf depth flat = toForest nameOf depth' flat
  | 0, 0, _, _, _ => rfl
  | 0, _ + 1, [], _, _ => rfl
  | _ + 1, 0, [], _, _ => rfl
  | depth + 1, depth' + 1, flat, h, h' => by
    rw [toForest, toForest]
    cases hlast : flat.getLast? with
    | none => rfl
    | some last =>
      refine List.map_congr_left fun g hg => ?_
      have hlt := length_of_mem_groups hlast hg
      have hinside : toForest nameOf depth g.1 = toForest nameOf depth' g.1 :=
        toForest_depth (by omega) (by omega)
      simp only [hinside]

theorem unflatten_eq {flat : List FlatTag} {last : FlatTag} (h : flat.getLast? = some last) :
    unflatten nameOf flat = (groups last.layer [] flat).map fun (inside, t) =>
      ⟨nameOf t.node, t.index, t.len, unflatten nameOf inside⟩ := by
  cases flat with
  | nil => cases h
  | cons t ts =>
    rw [unflatten, List.length_cons, toForest, h]
    refine List.map_congr_left fun g hg => ?_
    have hlt := length_of_mem_groups h hg
    rw [List.length_cons] at hlt
    have hinside : toForest nameOf ts.length g.1 = unflatten nameOf g.1 :=
      toForest_depth (Nat.le_of_lt_succ hlt) (Nat.le_refl _)
    simp only [hinside]

/-! ## Reading back -/

/-- A root as it is read back, what is inside it being read from its flat form. -/
def readBack (nameOf : Nat → String) (layer : Nat) (t : Tag String) : Tag String :=
  ⟨nameOf (indexOf t.name), t.index, t.len, unflatten nameOf (ofForest indexOf (layer + 1) t.subTags)⟩

/-- A forest is read back root by root. -/
theorem unflatten_ofForest (layer : Nat) (ts : List (Tag String)) :
    unflatten nameOf (ofForest indexOf layer ts) = ts.map (readBack indexOf nameOf layer) := by
  cases ts with
  | nil => rfl
  | cons t ts =>
    obtain ⟨last, hlast, rfl⟩ := Option.map_eq_some_iff.1 (layer_getLast? indexOf layer t ts)
    rw [unflatten_eq hlast, groups_ofForest, List.map_map]
    rfl

mutual

theorem readBack_eq_map : ∀ (layer : Nat) (t : Tag String),
    readBack indexOf nameOf layer t = t.map (nameOf ∘ indexOf) id
  | layer, ⟨name, index, len, subTags⟩ => by
    rw [readBack, unflatten_ofForest, map_readBack (layer + 1) subTags, Tag.map]
    rfl

theorem map_readBack : ∀ (layer : Nat) (ts : List (Tag String)),
    ts.map (readBack indexOf nameOf layer) = Tag.maps (nameOf ∘ indexOf) id ts
  | _, [] => rfl
  | layer, t :: ts => by rw [List.map_cons, readBack_eq_map layer t, map_readBack layer ts, Tag.maps]

end

/-- A forest that is written and read has its names changed and nothing else. -/
theorem unflatten_flatten_eq_maps (tags : List (Tag String)) :
    unflatten nameOf (flatten indexOf tags) = Tag.maps (nameOf ∘ indexOf) id tags := by
  rw [flatten, unflatten_ofForest, map_readBack]

/-- **A forest is read back from its flat form** exactly if the number of each of its names leads back to
    the name. -/
theorem unflatten_flatten_iff (tags : List (Tag String)) :
    unflatten nameOf (flatten indexOf tags) = tags ↔
      ∀ name ∈ Tag.allNames tags, nameOf (indexOf name) = name := by
  rw [unflatten_flatten_eq_maps, Tag.maps_eq_self_iff]
  rfl

end GraphLexer.FlatTag
