/-
Any list is read without loss, and which lists are flat forms.

Reading takes any list, however its layers are arranged, and drops or moves no entry: the forest that is
read is written with the entries of the list in their order, only the layers may be others
(`map_content_ofForest`). They are the same if and only if the list is in postorder: its last entry is a
root, nothing is above the roots, and no entry is followed by one that is more than one layer above it
(`postorder_ofForest`, `ofForest_of_postorder`). Both arguments follow the groups that a list is read by
(`group_induction`).
-/
import GraphLexer.Proofs.Tag.Flat
import Mathlib.Data.List.Chain

namespace GraphLexer.FlatTag

/-- An entry without its layer. -/
def content (t : FlatTag) : Nat × Nat × Nat :=
  (t.node, t.index, t.len)

/-- Induction on the groups of a list, what is inside each of them being shorter. -/
@[elab_as_elim]
theorem group_induction {motive : List FlatTag → Prop} (nil : motive [])
    (group : ∀ flat last, flat.getLast? = some last →
      (∀ g ∈ groups last.layer [] flat, motive g.1) → motive flat) (flat : List FlatTag) :
    motive flat := by
  cases hlast : flat.getLast? with
  | none => rwa [List.getLast?_eq_none_iff.1 hlast]
  | some last =>
    refine group flat last hlast fun g hg => ?_
    have := length_of_mem_groups hlast hg
    exact group_induction nil group g.1
termination_by flat.length

variable {indexOf : String → Nat} {nameOf : Nat → String} {flat : List FlatTag}

theorem ofForest_eq_flatMap (layer : Nat) (ts : List (Tag String)) :
    ofForest indexOf layer ts = ts.flatMap (ofTag indexOf layer) := by
  induction ts with
  | nil => rfl
  | cons t ts ih => rw [ofForest, ih, List.flatMap_cons]

/-- A list that is read and written again is written group by group. -/
theorem ofForest_unflatten {last : FlatTag} (h : flat.getLast? = some last) (layer : Nat) :
    ofForest indexOf layer (unflatten nameOf flat) = (groups last.layer [] flat).flatMap fun g =>
      ofForest indexOf (layer + 1) (unflatten nameOf g.1) ++
        [⟨layer, indexOf (nameOf g.2.node), g.2.index, g.2.len⟩] := by
  rw [unflatten_eq h, ofForest_eq_flatMap, List.flatMap_map]
  simp only [ofTag_eq]

theorem mem_of_mem_groups {last t : FlatTag} {g : List FlatTag × FlatTag} (h : flat.getLast? = some last)
    (hg : g ∈ groups last.layer [] flat) (ht : t ∈ g.1 ++ [g.2]) : t ∈ flat :=
  (infix_of_mem_groups h hg).subset ht

/-- **No entry is lost, repeated or moved**, by induction on the groups. -/
theorem map_content_ofForest (layer : Nat) (h : ∀ t ∈ flat, indexOf (nameOf t.node) = t.node) :
    (ofForest indexOf layer (unflatten nameOf flat)).map content = flat.map content := by
  induction flat using group_induction generalizing layer with
  | nil => rfl
  | group flat last hlast ih =>
    have hgroup : ∀ g ∈ groups last.layer [] flat,
        (ofForest indexOf (layer + 1) (unflatten nameOf g.1) ++
          [(⟨layer, indexOf (nameOf g.2.node), g.2.index, g.2.len⟩ : FlatTag)]).map content =
        (g.1 ++ [g.2]).map content := by
      intro g hg
      have hnodes : ∀ t ∈ g.1 ++ [g.2], indexOf (nameOf t.node) = t.node :=
        fun t ht => h t (mem_of_mem_groups hlast hg ht)
      rw [List.map_append, List.map_append, ih g hg _ fun t ht => hnodes t (List.mem_append_left _ ht)]
      simp [content, hnodes g.2 (by simp)]
    calc (ofForest indexOf layer (unflatten nameOf flat)).map content
        = (groups last.layer [] flat).flatMap fun g => (g.1 ++ [g.2]).map content := by
          rw [ofForest_unflatten hlast, List.map_flatMap]
          exact List.flatMap_congr hgroup
      _ = flat.map content := by
          conv_rhs => rw [eq_flatMap_groups hlast, List.map_flatMap]

/-! ## Postorder -/

/-- The lists that are flat forms of forests with their roots at a layer. -/
structure Postorder (root : Nat) (flat : List FlatTag) : Prop where
  last : ∀ t ∈ flat.getLast?, t.layer = root
  le_layer : ∀ t ∈ flat, root ≤ t.layer
  climbs : flat.IsChain fun t u => t.layer ≤ u.layer + 1

theorem layer_of_mem_getLast? {layer : Nat} {ts : List (Tag String)} {u : FlatTag}
    (h : u ∈ (ofForest indexOf layer ts).getLast?) : u.layer = layer := by
  cases ts with
  | nil => cases h
  | cons t ts =>
    have hlast := layer_getLast? indexOf layer t ts
    rw [Option.mem_def.1 h] at hlast
    exact Option.some.inj hlast

mutual

theorem climbs_ofTag : ∀ (layer : Nat) (t : Tag String),
    (ofTag indexOf layer t).IsChain fun t u => t.layer ≤ u.layer + 1
  | layer, ⟨name, index, len, subTags⟩ => by
    rw [ofTag, List.isChain_append]
    refine ⟨climbs_ofForest (layer + 1) subTags, .singleton _, ?_⟩
    intro last hlast parent hparent
    cases hparent
    exact Nat.le_of_eq (layer_of_mem_getLast? hlast)

theorem climbs_ofForest : ∀ (layer : Nat) (ts : List (Tag String)),
    (ofForest indexOf layer ts).IsChain fun t u => t.layer ≤ u.layer + 1
  | _, [] => .nil
  | layer, t :: ts => by
    rw [ofForest, List.isChain_append]
    refine ⟨climbs_ofTag layer t, climbs_ofForest layer ts, ?_⟩
    intro root hroot next hnext
    -- the last entry of a tag is its own, and nothing in the tags after it is above that
    have hlayer : root.layer = layer := by
      rw [ofTag_eq, List.getLast?_concat] at hroot
      cases hroot
      rfl
    have := le_layer_ofForest indexOf next (List.mem_of_mem_head? hnext)
    omega

end

theorem postorder_ofForest (layer : Nat) (ts : List (Tag String)) :
    Postorder layer (ofForest indexOf layer ts) where
  last _ h := layer_of_mem_getLast? h
  le_layer := le_layer_ofForest indexOf
  climbs := climbs_ofForest layer ts

theorem layer_of_mem_groups {root : Nat} {g : List FlatTag × FlatTag} : ∀ {flat : List FlatTag}
    {inside : List FlatTag}, g ∈ groups root inside flat → g.2.layer = root
  | [], _, h => by cases h
  | t :: ts, inside, h => by
    rw [groups] at h
    split at h
    · next ht =>
      rcases List.mem_cons.1 h with rfl | h
      · exact ht
      · exact layer_of_mem_groups h
    · exact layer_of_mem_groups h

theorem layer_ne_of_mem_groups {root : Nat} {g : List FlatTag × FlatTag} : ∀ {flat inside : List FlatTag},
    g ∈ groups root inside flat → (∀ t ∈ inside, t.layer ≠ root) → ∀ t ∈ g.1, t.layer ≠ root
  | [], _, h, _ => by cases h
  | t :: ts, inside, h, hinside => by
    rw [groups] at h
    split at h
    · rcases List.mem_cons.1 h with rfl | h
      · exact hinside
      · exact layer_ne_of_mem_groups h (by simp)
    · next ht =>
      refine layer_ne_of_mem_groups h fun u hu => ?_
      rcases List.mem_append.1 hu with hu | hu
      · exact hinside u hu
      · rwa [List.mem_singleton.1 hu]

theorem Postorder.of_mem_groups {last : FlatTag} {g : List FlatTag × FlatTag}
    (h : Postorder last.layer flat) (hlast : flat.getLast? = some last)
    (hg : g ∈ groups last.layer [] flat) : Postorder (last.layer + 1) g.1 := by
  have hdeeper : ∀ t ∈ g.1, last.layer + 1 ≤ t.layer := by
    intro t ht
    have hle := h.le_layer t (mem_of_mem_groups hlast hg (List.mem_append_left _ ht))
    have hne := layer_ne_of_mem_groups hg (by simp) t ht
    omega
  have hclimbs := h.climbs.infix (infix_of_mem_groups hlast hg)
  rw [List.isChain_append] at hclimbs
  obtain ⟨hinside, -, hend⟩ := hclimbs
  refine ⟨fun t ht => ?_, hdeeper, hinside⟩
  have hle := hend t ht g.2 rfl
  have hge := hdeeper t (List.mem_of_mem_getLast? ht)
  rw [layer_of_mem_groups hg] at hle
  omega

/-- **A list in postorder is the flat form of what is read from it**, by induction on the groups. -/
theorem ofForest_of_postorder {root : Nat} (h : Postorder root flat)
    (hnodes : ∀ t ∈ flat, indexOf (nameOf t.node) = t.node) :
    ofForest indexOf root (unflatten nameOf flat) = flat := by
  induction flat using group_induction generalizing root with
  | nil => rfl
  | group flat last hlast ih =>
    obtain rfl : last.layer = root := h.last last hlast
    conv_rhs => rw [eq_flatMap_groups hlast]
    rw [ofForest_unflatten hlast]
    refine List.flatMap_congr fun g hg => ?_
    have hmem : ∀ t ∈ g.1 ++ [g.2], indexOf (nameOf t.node) = t.node :=
      fun t ht => hnodes t (mem_of_mem_groups hlast hg ht)
    have hinside := ih g hg (h.of_mem_groups hlast hg) fun t ht => hmem t (List.mem_append_left _ ht)
    have hroot : (⟨last.layer, indexOf (nameOf g.2.node), g.2.index, g.2.len⟩ : FlatTag) = g.2 := by
      rw [hmem g.2 (by simp), ← layer_of_mem_groups hg]
    rw [hinside, hroot]

theorem postorder_zero : Postorder 0 flat ↔ flat = [] ∨
    flat.getLast?.map FlatTag.layer = some 0 ∧ flat.IsChain fun t u => t.layer ≤ u.layer + 1 := by
  constructor
  · rintro ⟨hlast, -, hclimbs⟩
    cases h : flat.getLast? with
    | none => exact Or.inl (List.getLast?_eq_none_iff.1 h)
    | some last => exact Or.inr ⟨congrArg some (hlast last h), hclimbs⟩
  · rintro (rfl | ⟨hlast, hclimbs⟩)
    · exact ⟨by simp, by simp, .nil⟩
    · refine ⟨fun t ht => ?_, fun _ _ => Nat.zero_le _, hclimbs⟩
      rw [Option.mem_def.1 ht] at hlast
      exact Option.some.inj hlast

/-- **Reading any list and writing it again loses nothing**: all entries are there in their order, as
    long as the names lead back to their numbers. The list itself comes back exactly if it is empty, or
    ends in a root and nowhere climbs by more than one layer. -/
theorem flatten_unflatten (h : ∀ t ∈ flat, indexOf (nameOf t.node) = t.node) :
    (flatten indexOf (unflatten nameOf flat)).map content = flat.map content ∧
      (flatten indexOf (unflatten nameOf flat) = flat ↔ flat = [] ∨
        flat.getLast?.map FlatTag.layer = some 0 ∧ flat.IsChain fun t u => t.layer ≤ u.layer + 1) := by
  refine ⟨map_content_ofForest 0 h, ?_⟩
  rw [← postorder_zero]
  constructor
  · intro heq
    rw [← heq]
    exact postorder_ofForest 0 _
  · intro hpost
    exact ofForest_of_postorder hpost h

/-- A root stands among deeper entries, and the last entry is not one. -/
def scattered : List FlatTag :=
  [⟨3, 1, 0, 1⟩, ⟨0, 0, 0, 2⟩, ⟨1, 1, 2, 1⟩, ⟨2, 0, 2, 2⟩, ⟨1, 0, 4, 1⟩]

theorem scattered_contents : ∃ (indexOf : String → Nat) (nameOf : Nat → String),
    (∀ t ∈ scattered, indexOf (nameOf t.node) = t.node) ∧
    (flatten indexOf (unflatten nameOf scattered)).map content = scattered.map content ∧
    flatten indexOf (unflatten nameOf scattered) ≠ scattered := by
  refine ⟨fun name => if name = "A" then 0 else 1, fun i => if i = 0 then "A" else "B", ?nodes,
    (flatten_unflatten ?nodes).1, (flatten_unflatten ?nodes).2.not.2 ?climbs⟩
  case nodes => decide
  case climbs => decide

end GraphLexer.FlatTag
