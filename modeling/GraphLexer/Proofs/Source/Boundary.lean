/-
The boundary that is found for a unit offset.

It is the least character boundary with at least that many units before it, as far as the text goes
(`FirstBoundary`). So an offset goes to itself or to the end of the pair that it is in, and a later offset
never goes to an earlier boundary. An offset goes to itself exactly where a source knows its byte offset,
and to that (`boundaryAt_first`).
-/
import GraphLexer.Proofs.Source.Exact

namespace GraphLexer.Text

variable {s : String} {offset : Nat}

theorem charsLength_front_le {cs front back : List Char} (h : cs = front ++ back) :
    charsLength front ≤ charsLength cs := by
  rw [h, charsLength_append]
  exact Nat.le_add_right _ _

theorem byteLength_le {cs front back front' back' : List Char} (h : cs = front ++ back)
    (h' : cs = front' ++ back') (hle : charsLength front ≤ charsLength front') :
    byteLength front ≤ byteLength front' := by
  rw [← length_flatMap_charUnits, ← length_flatMap_charUnits] at hle
  obtain ⟨mid, rfl⟩ := append_of_length_le h h' hle
  rw [byteLength_append]
  exact Nat.le_add_right _ _

theorem bytesBetween_zero {front back : List Char} (h : s.toList = front ++ back) :
    bytesBetween s 0 (byteLength front) = String.ofList front := by
  have hdrop : dropBytes 0 s.toList = s.toList := by
    cases s.toList <;> simp [dropBytes]
  rw [bytesBetween, hdrop, Nat.sub_zero, h, takeBytes_append]

theorem length_bytesBetween_zero {front back : List Char} (h : s.toList = front ++ back) :
    length (bytesBetween s 0 (byteLength front)) = charsLength front := by
  rw [bytesBetween_zero h, length, String.toList_ofList]

/-! ## The least boundary -/

theorem boundaryAt_spec (s : String) (offset : Nat) : ∃ front back, s.toList = front ++ back ∧
    min offset (length s) ≤ charsLength front ∧ boundaryAt s offset = (charsLength front, byteLength front) := by
  obtain ⟨front, back, happend, hreach, hfound⟩ := boundaryFrom_spec offset s.toList 0 0
  rw [Nat.zero_add, Nat.zero_add] at hfound
  refine ⟨front, back, happend, ?_, hfound⟩
  rcases hreach with rfl | hreach
  · rw [length, happend, List.append_nil]
    exact Nat.min_le_right _ _
  · omega

/-- No other place between characters that reaches as far comes before it. -/
theorem boundaryAt_le {front back : List Char} (h : s.toList = front ++ back)
    (hreach : min offset (length s) ≤ charsLength front) :
    (boundaryAt s offset).1 ≤ charsLength front ∧ (boundaryAt s offset).2 ≤ byteLength front := by
  obtain ⟨front', back', happend, -, hfound⟩ := boundaryAt_spec s offset
  have hunits : (boundaryAt s offset).1 ≤ charsLength front := by
    rcases Nat.le_total offset (length s) with hle | hle
    · have hoffset : offset ≤ 0 + charsLength front := by omega
      have hbound := boundaryFrom_le offset front back 0 0 hoffset
      rwa [← h, Nat.zero_add] at hbound
    · have hall := charsLength_front_le happend
      rw [hfound]
      rw [length] at hreach hle
      dsimp only
      omega
  refine ⟨hunits, ?_⟩
  rw [hfound] at hunits ⊢
  exact byteLength_le happend h hunits

/-- A place of a text is its first boundary at or after an offset, or its end if there is none. -/
structure FirstBoundary (s : String) (offset units bytes : Nat) : Prop where
  isValid : (String.Pos.Raw.mk bytes).IsValid s
  /-- the units are those of the text before -/
  units_eq : units = length (bytesBetween s 0 bytes)
  reaches : min offset (length s) ≤ units
  least : ∀ place, (String.Pos.Raw.mk place).IsValid s →
    min offset (length s) ≤ length (bytesBetween s 0 place) → bytes ≤ place

theorem firstBoundary_boundaryAt (s : String) (offset : Nat) :
    FirstBoundary s offset (boundaryAt s offset).1 (boundaryAt s offset).2 := by
  obtain ⟨front, back, happend, hreach, hfound⟩ := boundaryAt_spec s offset
  refine ⟨isValid_byteOffset s offset, ?_, ?_, fun place hplace hlength => ?_⟩
  · rw [hfound, length_bytesBetween_zero happend]
  · rw [hfound]
    exact hreach
  · obtain ⟨front', back', happend', rfl⟩ := isValid_iff.1 hplace
    rw [length_bytesBetween_zero happend'] at hlength
    exact (boundaryAt_le happend' hlength).2

/-- An offset within a pair goes one unit further. -/
theorem boundaryAt_near (h : offset ≤ length s) :
    (boundaryAt s offset).1 = offset ∨ (boundaryAt s offset).1 = offset + 1 := by
  obtain ⟨front, back, happend, hreach, hfound⟩ := boundaryAt_spec s offset
  rw [Nat.min_eq_left h] at hreach
  rcases front.eq_nil_or_concat with rfl | ⟨init, c, rfl⟩
  · rw [charsLength_nil] at hreach
    rw [hfound, charsLength_nil]
    omega
  · rw [List.concat_eq_append] at happend hreach hfound
    have hlast : charsLength (init ++ [c]) = charsLength init + charLength c := by
      rw [charsLength_append, charsLength_cons, charsLength_nil, Nat.add_zero]
    have hc : 0 < charLength c ∧ charLength c ≤ 2 := by
      unfold charLength
      split <;> omega
    -- the place before the last character does not reach as far
    have hinit : charsLength init < offset := by
      refine Nat.lt_of_not_le fun hle => ?_
      rw [List.append_assoc] at happend
      have hbefore := (boundaryAt_le happend (Nat.le_trans (Nat.min_le_left _ _) hle)).1
      rw [hfound, hlast] at hbefore
      dsimp only at hbefore
      omega
    rw [hfound, hlast]
    dsimp only
    omega

theorem boundaryAt_mono {offset' : Nat} (h : offset ≤ offset') :
    (boundaryAt s offset).1 ≤ (boundaryAt s offset').1 ∧ (boundaryAt s offset).2 ≤ (boundaryAt s offset').2 := by
  obtain ⟨front, back, happend, hreach, hfound⟩ := boundaryAt_spec s offset'
  rw [hfound]
  exact boundaryAt_le happend (by omega)

/-- A source knows the byte offset of a position exactly if the position goes to itself. -/
theorem byteOffsets_iff_boundaryAt {i b : Nat} (h : i ≤ length s) :
    (Source.ofText s).byteOffsets[i]? = some (some b) ↔ boundaryAt s i = (i, b) := by
  rw [Source.byteOffsets_iff]
  obtain ⟨front, back, happend, hreach, hfound⟩ := boundaryAt_spec s i
  constructor
  · rintro ⟨front', back', happend', rfl, rfl⟩
    obtain ⟨hunits, hbytes⟩ := boundaryAt_le happend' (Nat.min_le_left _ _)
    rw [Nat.min_eq_left h] at hreach
    rw [hfound] at hunits hbytes ⊢
    have hbytes' : byteLength front = byteLength front' :=
      Nat.le_antisymm hbytes (byteLength_le happend' happend hreach)
    rw [Prod.mk.injEq]
    exact ⟨Nat.le_antisymm hunits hreach, hbytes'⟩
  · intro hat
    rw [hfound, Prod.mk.injEq] at hat
    exact ⟨front, back, happend, hat⟩

/-- **The boundary that is found for an offset is the least one that reaches it**, as far as the text goes.
    It is the offset itself or the unit after it; later offsets have later boundaries; and it is the offset
    itself exactly where a source knows the byte offset, and there it is that. -/
theorem boundaryAt_first (s : String) :
    (∀ offset, FirstBoundary s offset (boundaryAt s offset).1 (boundaryAt s offset).2) ∧
    (∀ offset ≤ length s, (boundaryAt s offset).1 = offset ∨ (boundaryAt s offset).1 = offset + 1) ∧
    (∀ m n, m ≤ n → (boundaryAt s m).1 ≤ (boundaryAt s n).1 ∧ (boundaryAt s m).2 ≤ (boundaryAt s n).2) ∧
    ∀ i ≤ length s, ∀ b,
      (Source.ofText s).byteOffsets[i]? = some (some b) ↔ boundaryAt s i = (i, b) :=
  ⟨firstBoundary_boundaryAt s, fun _ => boundaryAt_near, fun _ _ => boundaryAt_mono,
    fun _ h _ => byteOffsets_iff_boundaryAt h⟩

theorem paired_first : (1 : Nat) ≤ length "😀x" ∧ boundaryAt "😀x" 1 = (2, 4) ∧
    (Source.ofText "😀x").byteOffsets[1]? ≠ some (some 4) ∧ FirstBoundary "😀x" 1 2 4 := by
  obtain ⟨hfirst, -, -, hknown⟩ := boundaryAt_first "😀x"
  have hlength : 1 ≤ length "😀x" := by decide
  have hfound : boundaryAt "😀x" 1 = (2, 4) := by decide
  have hplace := hfirst 1
  rw [hfound] at hplace
  refine ⟨hlength, hfound, fun hbyte => ?_, hplace⟩
  have hself := (hknown 1 hlength 4).1 hbyte
  rw [hfound] at hself
  exact absurd hself (by decide)

end GraphLexer.Text
