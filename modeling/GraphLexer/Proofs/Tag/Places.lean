/-
The walks through a tag go as the tags are nested.

A place in a tag says which tag to go into at each level. `places` lists the places of a tag with the tags
there, by recursion; the list has each place once (`mem_places`), in the order in which a place comes
before the places inside it, and these from left to right (`sorted_places`).

A walk goes through what is still to visit tag by tag, so it meets the tags in the order of their places
(`map_snd_places`). So do the lines of a listing, which are indented by the lengths of the places
(`forestLines_eq_places`). A tag that is moved has the same places, with all tags there moved
(`at?_shift`).
-/
import GraphLexer.Proofs.Tag.Flat
import GraphLexer.Proofs.Tag.Walk
import GraphLexer.Tag.Listing

namespace GraphLexer.Tag

variable {ν : Type}

/-! ## Places -/

/-- The tag at a place: which tag to go into at each level, from the outside in. -/
def at? : Tag ν → List Nat → Option (Tag ν)
  | t, [] => some t
  | t, i :: place => t.subTags[i]?.bind fun u => u.at? place

mutual

/-- The places in a tag with the tags there, parents first. -/
def places : Tag ν → List (List Nat × Tag ν)
  | ⟨name, index, len, subTags⟩ => ([], ⟨name, index, len, subTags⟩) :: placesFrom 0 subTags

/-- The places in tags that are numbered from `first` on. -/
def placesFrom (first : Nat) : List (Tag ν) → List (List Nat × Tag ν)
  | [] => []
  | t :: ts => t.places.map (fun p => (first :: p.1, p.2)) ++ placesFrom (first + 1) ts

end

theorem places_eq (t : Tag ν) : t.places = ([], t) :: placesFrom 0 t.subTags := by
  cases t
  rw [places]

theorem mem_placesFrom_iff {first : Nat} {place : List Nat} {u : Tag ν} {ts : List (Tag ν)} :
    (place, u) ∈ placesFrom first ts ↔
      ∃ i rest t, place = (first + i) :: rest ∧ ts[i]? = some t ∧ (rest, u) ∈ t.places := by
  induction ts generalizing first with
  | nil => simp [placesFrom]
  | cons t ts ih =>
    rw [placesFrom, List.mem_append, List.mem_map, ih]
    constructor
    · rintro (⟨⟨rest, u'⟩, hmem, heq⟩ | ⟨i, rest, t', rfl, ht', hmem⟩)
      · cases heq
        exact ⟨0, rest, t, rfl, rfl, hmem⟩
      · exact ⟨i + 1, rest, t', by rw [Nat.add_assoc, Nat.add_comm 1], ht', hmem⟩
    · rintro ⟨i, rest, t', rfl, ht', hmem⟩
      cases i with
      | zero =>
        cases ht'
        exact Or.inl ⟨(rest, u), hmem, rfl⟩
      | succ i => exact Or.inr ⟨i, rest, t', by rw [Nat.add_assoc, Nat.add_comm 1], ht', hmem⟩

theorem mem_places {u : Tag ν} : ∀ {place : List Nat} {t : Tag ν},
    (place, u) ∈ t.places ↔ t.at? place = some u
  | [], t => by
    rw [places_eq, List.mem_cons, mem_placesFrom_iff, at?]
    simp [eq_comm]
  | i :: place, t => by
    rw [places_eq, List.mem_cons, mem_placesFrom_iff, at?, Option.bind_eq_some_iff]
    constructor
    · rintro (heq | ⟨j, rest, t', heq, ht', hmem⟩)
      · cases heq
      · rw [Nat.zero_add, List.cons.injEq] at heq
        obtain ⟨rfl, rfl⟩ := heq
        exact ⟨t', ht', mem_places.1 hmem⟩
    · rintro ⟨t', ht', hat⟩
      exact Or.inr ⟨i, place, t', by rw [Nat.zero_add], ht', mem_places.2 hat⟩

mutual

/-- A place comes before the places inside it. -/
theorem sorted_places : ∀ t : Tag ν, t.places.Pairwise fun p q => List.Lex (· < ·) p.1 q.1
  | ⟨name, index, len, subTags⟩ => by
    rw [places, List.pairwise_cons]
    refine ⟨fun p hp => ?_, sorted_placesFrom 0 subTags⟩
    obtain ⟨i, rest, -, hplace, -, -⟩ := mem_placesFrom_iff.1 (show (p.1, p.2) ∈ _ from hp)
    rw [hplace]
    exact .nil

/-- Places come in the order of the tags that they are in. -/
theorem sorted_placesFrom : ∀ (first : Nat) (ts : List (Tag ν)),
    (placesFrom first ts).Pairwise fun p q => List.Lex (· < ·) p.1 q.1
  | _, [] => .nil
  | first, t :: ts => by
    rw [placesFrom, List.pairwise_append, List.pairwise_map]
    refine ⟨(sorted_places t).imp .cons, sorted_placesFrom (first + 1) ts, fun p hp q hq => ?_⟩
    obtain ⟨p', -, rfl⟩ := List.mem_map.1 hp
    obtain ⟨i, rest, -, hplace, -, -⟩ := mem_placesFrom_iff.1 (show (q.1, q.2) ∈ _ from hq)
    rw [hplace]
    exact .rel (by omega)

end

/-! ## Visiting -/

mutual

theorem map_snd_places : ∀ t : Tag ν, t.places.map (·.2) = t.preorder
  | ⟨name, index, len, subTags⟩ => by
    rw [places, List.map_cons, map_snd_placesFrom 0 subTags, preorder_eq, walk_eq_flatMap]

theorem map_snd_placesFrom : ∀ (first : Nat) (ts : List (Tag ν)),
    (placesFrom first ts).map (·.2) = walk ts
  | _, [] => walk_nil.symm
  | first, t :: ts => by
    rw [placesFrom, List.map_append, List.map_map, map_snd_placesFrom (first + 1) ts, walk_cons,
      ← List.cons_append, walk_eq_flatMap t.subTags, ← preorder_eq, ← map_snd_places t]
    rfl

end

theorem map_snd_flatMap_places (ts : List (Tag ν)) : (ts.flatMap places).map (·.2) = walk ts := by
  rw [List.map_flatMap, walk_eq_flatMap]
  simp only [map_snd_places]

theorem count_eq_length (t : Tag ν) : t.count = t.places.length := by
  rw [count, ← map_snd_places, List.length_map]

/-! ## Listing -/

variable {p : Palette}

mutual

/-- The lines of a tag are those of the tags at its places, in their order. -/
theorem lines_eq_places (source : Option (List UInt16)) : ∀ (depth : Nat) (t : Tag String),
    lines p source depth t = t.places.map fun (place, u) => u.line p source (depth + place.length)
  | depth, ⟨name, index, len, subTags⟩ => by
    rw [lines, forestLines_eq_placesFrom source depth 0 subTags, places, List.map_cons]
    rfl

theorem forestLines_eq_placesFrom (source : Option (List UInt16)) :
    ∀ (depth first : Nat) (ts : List (Tag String)), forestLines p source (depth + 1) ts =
      (placesFrom first ts).map fun (place, u) => u.line p source (depth + place.length)
  | _, _, [] => rfl
  | depth, first, t :: ts => by
    rw [forestLines, lines_eq_places source (depth + 1) t,
      forestLines_eq_placesFrom source depth (first + 1) ts, placesFrom, List.map_append, List.map_map]
    refine congrArg (· ++ _) (List.map_congr_left fun (place, u) _ => ?_)
    -- a place in a tag of the forest has one level more in the forest
    show u.line p source (depth + 1 + place.length) = u.line p source (depth + (place.length + 1))
    rw [Nat.add_assoc, Nat.add_comm 1]

end

theorem forestLines_eq_places (source : Option (List UInt16)) (depth : Nat) (ts : List (Tag String)) :
    forestLines p source depth ts =
      (ts.flatMap places).map fun (place, u) => u.line p source (depth + place.length) := by
  induction ts with
  | nil => rfl
  | cons t ts ih => rw [forestLines, ih, lines_eq_places, List.flatMap_cons, List.map_append]

/-- A listing has the lines of the tags that a walk visits, in the order of the walk. -/
theorem listing_eq_places (p : Palette) (source : Option String) (ts : List (Tag String)) :
    listing p source ts = "\n".intercalate
      ((ts.flatMap places).map fun (place, u) => u.line p (source.map Text.units) place.length) := by
  rw [listing, forestLines_eq_places]
  simp only [Nat.zero_add]

/-! ## Moving -/

theorem at?_shift (offset : Nat) : ∀ (place : List Nat) (t : Tag ν),
    (t.shift offset).at? place = (t.at? place).map (shift offset)
  | [], _ => rfl
  | i :: place, t => by
    rw [at?, at?, shift_eq, List.getElem?_map]
    cases t.subTags[i]? with
    | none => rfl
    | some u => exact at?_shift offset place u

/-- **A walk through a tag goes as its tags are nested.** -/
structure WalksNested (t : Tag String) : Prop where
  /-- a tag is visited before the tags inside it, and these from left to right -/
  preorder : t.preorder = t :: t.subTags.flatMap Tag.preorder
  /-- each place is visited once -/
  visits : t.preorder = t.places.map (·.2)
  sorted : t.places.Pairwise fun p q => List.Lex (· < ·) p.1 q.1
  complete : ∀ place u, (place, u) ∈ t.places ↔ t.at? place = some u
  count : t.count = 1 + total t.subTags
  count_places : t.count = t.places.length
  /-- moving a tag changes nothing but the positions, its own and those inside it -/
  shift : ∀ offset, t.shift offset =
    ⟨t.name, t.index + offset, t.len, t.subTags.map (Tag.shift offset)⟩
  shift_at : ∀ offset place, (t.shift offset).at? place = (t.at? place).map (Tag.shift offset)
  shift_shift : ∀ m n, (t.shift m).shift n = t.shift (m + n)

/-- **Walks with a list of what is still to visit go as the tags are nested.** A listing has a line for
    each tag that they visit, in the same order, and a forest that is moved is moved in its flat form. -/
theorem walks_nested : (∀ t : Tag String, t.WalksNested) ∧
    (∀ (p : Palette) (source : Option String) (ts : List (Tag String)),
      walk ts = (ts.flatMap places).map (·.2) ∧ listing p source ts = "\n".intercalate
        ((ts.flatMap places).map fun (place, u) => u.line p (source.map Text.units) place.length)) ∧
    ∀ (indexOf : String → Nat) (offset : Nat) (ts : List (Tag String)),
      FlatTag.flatten indexOf (ts.map (shift offset)) =
        (FlatTag.flatten indexOf ts).map fun e => { e with index := e.index + offset } := by
  refine ⟨fun t => ?_, fun p source ts => ?_, fun indexOf offset ts => ?_⟩
  · exact {
      preorder := preorder_eq t
      visits := (map_snd_places t).symm
      sorted := sorted_places t
      complete := fun _ _ => mem_places
      count := count_eq t
      count_places := count_eq_length t
      shift := fun offset => shift_eq offset t
      shift_at := fun offset place => at?_shift offset place t
      shift_shift := fun m n => by rw [Tag.shift_shift, Nat.add_comm] }
  · exact ⟨(map_snd_flatMap_places ts).symm, listing_eq_places p source ts⟩
  · rw [map_shift, FlatTag.flatten, FlatTag.ofForest_maps]
    rfl

end GraphLexer.Tag
