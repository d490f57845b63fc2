/-
Forests of tags that are nested and ordered.

`Forest lo hi ts` says that the tags `ts` stand between `lo` and `hi`, one after the other, and that
the tags inside each of them stand in its span in the same way. Forests are put together side by
side (`forest_append`), by a new tag around them (`forest_singleton`) and by moving them
(`forest_maps`). Every position in a forest, however deep, lies between its ends (`Forest.stop_le`).
-/
import GraphLexer.Proofs.Tag.Walk

namespace GraphLexer.Tag

variable {ν μ : Type}

mutual

/-- The span lies between `lo` and `hi`, and the tags inside it lie in the span. -/
def Fits (lo hi : Nat) : Tag ν → Prop
  | ⟨_, index, len, subTags⟩ => lo ≤ index ∧ index + len ≤ hi ∧ Forest index (index + len) subTags

/-- Every tag fits between `lo` and `hi`, and none starts before the one before it stops. -/
def Forest (lo hi : Nat) : List (Tag ν) → Prop
  | [] => True
  | t :: ts => Fits lo hi t ∧ Forest t.stop hi ts

end

theorem fits_iff {lo hi : Nat} {t : Tag ν} : Fits lo hi t ↔
    lo ≤ t.index ∧ t.stop ≤ hi ∧ Forest t.index t.stop t.subTags := by
  cases t; rfl

theorem Forest.weaken {lo lo' hi hi' : Nat} (hlo : lo' ≤ lo) (hhi : hi ≤ hi') :
    ∀ {ts : List (Tag ν)}, Forest lo hi ts → Forest lo' hi' ts
  | [], _ => trivial
  | _ :: _, ⟨ht, hts⟩ =>
    have ⟨h1, h2, h3⟩ := fits_iff.1 ht
    ⟨fits_iff.2 ⟨Nat.le_trans hlo h1, Nat.le_trans h2 hhi, h3⟩, hts.weaken (Nat.le_refl _) hhi⟩

theorem forest_append {lo mid hi : Nat} (h1 : lo ≤ mid) (h2 : mid ≤ hi) {us : List (Tag ν)}
    (hus : Forest mid hi us) : ∀ {ts : List (Tag ν)}, Forest lo mid ts → Forest lo hi (ts ++ us)
  | [], _ => hus.weaken h1 (Nat.le_refl _)
  | _ :: _, ⟨ht, hts⟩ =>
    have ⟨l1, l2, l3⟩ := fits_iff.1 ht
    ⟨fits_iff.2 ⟨l1, Nat.le_trans l2 h2, l3⟩, forest_append l2 h2 hus hts⟩

theorem forest_singleton {lo len : Nat} {name : ν} {ts : List (Tag ν)}
    (h : Forest lo (lo + len) ts) : Forest lo (lo + len) [⟨name, lo, len, ts⟩] :=
  ⟨⟨Nat.le_refl _, Nat.le_refl _, h⟩, trivial⟩

theorem Forest.stop_le {lo hi : Nat} {ts : List (Tag ν)} (h : Forest lo hi ts) :
    ∀ t ∈ walk ts, lo ≤ t.index ∧ t.stop ≤ hi := by
  intro t ht
  cases ts with
  | nil => rw [walk_nil] at ht; cases ht
  | cons u ts =>
    obtain ⟨hu, hts⟩ := h
    obtain ⟨hlo, hhi, hsub⟩ := fits_iff.1 hu
    rw [walk_cons, List.mem_cons, List.mem_append] at ht
    have hle : u.index ≤ u.stop := Nat.le_add_right _ _
    rcases ht with rfl | ht | ht
    · exact ⟨hlo, hhi⟩
    · obtain ⟨h1, h2⟩ := hsub.stop_le t ht
      exact ⟨Nat.le_trans hlo h1, Nat.le_trans h2 hhi⟩
    · obtain ⟨h1, h2⟩ := hts.stop_le t ht
      exact ⟨Nat.le_trans hlo (Nat.le_trans hle h1), h2⟩
  termination_by sizes ts
  decreasing_by all_goals (subst_vars; simp only [sizes, size_eq]; omega)

section
variable {f : ν → μ} {g : Nat → Nat} {low : Nat} (hm : ∀ i l, low ≤ i → g (i + l) = g i + l)
include hm

theorem index_mono {i j : Nat} (hi : low ≤ i) (h : i ≤ j) : g i ≤ g j := by
  obtain ⟨l, rfl⟩ := Nat.exists_eq_add_of_le h
  rw [hm i l hi]; exact Nat.le_add_right _ _

mutual

theorem fits_map : ∀ {lo hi : Nat} {t : Tag ν}, low ≤ lo → Fits lo hi t →
    Fits (g lo) (g hi) (t.map f g)
  | lo, hi, ⟨_, i, l, subTags⟩, hlo, ⟨h1, h2, h3⟩ => by
    have hi' := Nat.le_trans hlo h1
    have hsub := forest_maps hi' h3
    rw [hm i l hi'] at hsub
    refine ⟨index_mono hm hlo h1, ?_, hsub⟩
    rw [← hm i l hi']; exact index_mono hm (Nat.le_add_right_of_le hi') h2

/-- A forest stays one when it is moved as a whole. -/
theorem forest_maps : ∀ {lo hi : Nat} {ts : List (Tag ν)}, low ≤ lo → Forest lo hi ts →
    Forest (g lo) (g hi) (maps f g ts)
  | _, _, [], _, _ => trivial
  | lo, hi, ⟨n, i, l, subTags⟩ :: ts, hlo, ⟨ht, hts⟩ => by
    have hi' := Nat.le_trans hlo ht.1
    have hrest : Forest (g (i + l)) (g hi) (maps f g ts) :=
      forest_maps (Nat.le_add_right_of_le hi') hts
    rw [hm i l hi'] at hrest
    exact ⟨fits_map hlo ht, hrest⟩

end

end

end GraphLexer.Tag
