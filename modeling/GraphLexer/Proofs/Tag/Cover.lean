/-
Tags that leave out only what may be left out.

`Covers gap lo hi ts` says that no tag of `ts` is empty and that every position from `lo` up to `hi`
lies in the span of one of them, or may be left out where these tags stand (`gap`). Such tags are put
side by side (`Covers.append`), after positions that are left out (`Covers.before`), and moved
(`Covers.maps`).

In a forest the tags do not overlap, so a position is in the span of at most one tag
(`Forest.countP_spans_le_one`). Where nothing may be left out, the tags of a forest stand one right after
the other (`Covers.tiles`).
-/
import GraphLexer.Proofs.Tag.Forest
import GraphLexer.Proofs.Tag.Maps

namespace GraphLexer.Tag

variable {ν μ : Type}

def Spans (t : Tag ν) (i : Nat) : Prop :=
  t.index ≤ i ∧ i < t.stop

instance (t : Tag ν) (i : Nat) : Decidable (t.Spans i) :=
  inferInstanceAs (Decidable (_ ∧ _))

/-- The tags stand one right after the other, from `lo` up to `hi`, and none is empty. -/
def Tiles (lo hi : Nat) : List (Tag ν) → Prop
  | [] => lo = hi
  | t :: ts => t.index = lo ∧ 0 < t.len ∧ Tiles t.stop hi ts

/-- No tag is empty, and between `lo` and `hi` every position is in the span of a tag or may be left out. -/
structure Covers (gap : Nat → List (Tag ν) → Prop) (lo hi : Nat) (ts : List (Tag ν)) : Prop where
  pos : ∀ t ∈ ts, 0 < t.len
  spanned : ∀ i, lo ≤ i → i < hi → (∃ t ∈ ts, t.Spans i) ∨ gap i ts

/-! ## Putting tags together -/

section
variable {gap : Nat → List (Tag ν) → Prop} {lo mid hi : Nat} {ts us : List (Tag ν)}

theorem covers_nil : Covers gap lo lo [] :=
  ⟨by simp, fun i hlo hhi => absurd hhi (by omega)⟩

theorem covers_singleton {name : ν} {len : Nat} (h : 0 < len) :
    Covers gap lo (lo + len) [⟨name, lo, len, ts⟩] :=
  ⟨by simpa, fun i hlo hhi => Or.inl ⟨_, List.mem_singleton_self _, hlo, hhi⟩⟩

/-- Tags side by side. What may be left out stays so when there are more tags. -/
theorem Covers.append (hgap : ∀ i ts us, ts ⊆ us → gap i ts → gap i us) (h : Covers gap lo mid ts)
    (h' : Covers gap mid hi us) : Covers gap lo hi (ts ++ us) where
  pos t ht := (List.mem_append.1 ht).elim (h.pos t) (h'.pos t)
  spanned i hlo hhi := by
    rcases Nat.lt_or_ge i mid with hi | hi
    · exact (h.spanned i hlo hi).imp (fun ⟨t, ht, hs⟩ => ⟨t, List.mem_append_left _ ht, hs⟩)
        (hgap i _ _ (List.subset_append_left _ _))
    · exact (h'.spanned i hi hhi).imp (fun ⟨t, ht, hs⟩ => ⟨t, List.mem_append_right _ ht, hs⟩)
        (hgap i _ _ (List.subset_append_right _ _))

theorem Covers.before (hgap : ∀ i, lo ≤ i → i < mid → gap i ts) (h : Covers gap mid hi ts) :
    Covers gap lo hi ts where
  pos := h.pos
  spanned i hlo hhi := (Nat.lt_or_ge i mid).elim (fun hi => Or.inr (hgap i hlo hi))
    fun hi => h.spanned i hi hhi

theorem Covers.maps {gap' : Nat → List (Tag μ) → Prop} {f : ν → μ} {g : Nat → Nat}
    (hg : ∀ t ∈ ts, g t.index = t.index) (hgap : ∀ {i}, gap i ts → gap' i (ts.map (map f g)))
    (h : Covers gap lo hi ts) : Covers gap' lo hi (ts.map (map f g)) where
  pos t ht := by
    obtain ⟨u, hu, rfl⟩ := List.mem_map.1 ht
    rw [len_map]
    exact h.pos u hu
  spanned i hlo hhi := by
    refine (h.spanned i hlo hhi).imp (fun ⟨t, ht, hs⟩ => ⟨_, List.mem_map_of_mem ht, ?_⟩) hgap
    rwa [Spans, stop, index_map, len_map, hg t ht]

end

/-! ## In a forest -/

theorem Forest.le_index {lo hi : Nat} : ∀ {ts : List (Tag ν)}, Forest lo hi ts → ∀ t ∈ ts, lo ≤ t.index
  | t :: ts, ⟨ht, hts⟩, u, hu => by
    obtain ⟨hlo, -, -⟩ := fits_iff.1 ht
    rcases List.mem_cons.1 hu with rfl | hu
    · exact hlo
    · have := hts.le_index u hu
      simp only [stop] at this
      omega

theorem Forest.countP_spans_le_one {lo hi i : Nat} : ∀ {ts : List (Tag ν)}, Forest lo hi ts →
    ts.countP (fun t => t.Spans i) ≤ 1
  | [], _ => Nat.zero_le _
  | t :: ts, ⟨_, hts⟩ => by
    by_cases ht : t.Spans i
    · have htail : ts.countP (fun t => t.Spans i) = 0 :=
        List.countP_eq_zero.2 fun u hu hs => by
          have := hts.le_index u hu
          have := ht.2
          have := (of_decide_eq_true hs).1
          omega
      simp [ht, htail]
    · simpa [ht] using hts.countP_spans_le_one

/-- A position is in the span of exactly one tag of a forest, or may be left out. -/
theorem Covers.countP_spans {gap : Nat → List (Tag ν) → Prop} {lo hi : Nat} {ts : List (Tag ν)}
    (h : Covers gap lo hi ts) (hf : Forest lo hi ts) {i : Nat} (hlo : lo ≤ i) (hhi : i < hi) :
    ts.countP (fun t => t.Spans i) = 1 ∨ gap i ts := by
  refine (h.spanned i hlo hhi).imp_left fun ⟨t, ht, hs⟩ => Nat.le_antisymm hf.countP_spans_le_one ?_
  exact List.countP_pos_iff.2 ⟨t, ht, decide_eq_true hs⟩

/-- Where nothing is left out, the tags of a forest stand one right after the other. -/
theorem Covers.tiles {gap : Nat → List (Tag ν) → Prop} {hi : Nat} :
    ∀ {lo : Nat} {ts : List (Tag ν)}, Covers gap lo hi ts → (∀ i ts, ¬ gap i ts) → lo ≤ hi →
      Forest lo hi ts → Tiles lo hi ts
  | lo, [], h, hgap, hle, _ => by
    rcases Nat.eq_or_lt_of_le hle with rfl | hlt
    · rfl
    · rcases h.spanned lo (Nat.le_refl _) hlt with ⟨t, ht, -⟩ | hg
      · cases ht
      · exact absurd hg (hgap _ _)
  | lo, t :: ts, h, hgap, hle, ⟨ht, hts⟩ => by
    obtain ⟨hlo, hhi, -⟩ := fits_iff.1 ht
    have hpos := h.pos t (by simp)
    have hspan : ∀ i, lo ≤ i → i < hi → ∃ u ∈ t :: ts, u.Spans i := fun i hlo hhi =>
      (h.spanned i hlo hhi).resolve_right (hgap _ _)
    have hlater : ∀ u ∈ ts, t.stop ≤ u.index := hts.le_index
    simp only [stop] at hhi
    have hrest : Covers gap t.stop hi ts := by
      refine ⟨fun u hu => h.pos u (by simp [hu]), fun i hi hi' => ?_⟩
      obtain ⟨u, hu, hs⟩ := hspan i (by simp only [stop] at hi; omega) hi'
      rcases List.mem_cons.1 hu with rfl | hu
      · exact absurd hs.2 (by omega)
      · exact Or.inl ⟨u, hu, hs⟩
    refine ⟨?_, hpos, hrest.tiles hgap hhi hts⟩
    -- the first position is in the span of the first tag, since all others start later
    obtain ⟨u, hu, hs⟩ := hspan lo (Nat.le_refl _) (by omega)
    rcases List.mem_cons.1 hu with rfl | hu
    · exact Nat.le_antisymm hs.1 hlo
    · have := hlater u hu
      simp only [Spans, stop] at *
      omega

end GraphLexer.Tag
