/-
The tables of a source stay aligned, and slices are exact.

A source has three tables with a place for each unit of the text: the units, the byte offsets in the view
and the byte offsets in the text, which are not known within a pair. Both kinds of offsets are those of the
places between characters (`viewOffsets_iff`, `byteOffsets_iff`). So what is cut off the view is what the
units left stand for, and it does not matter whether a slice is cut out of the text, where the byte offsets
of both ends are known, or decoded from the units (`ofText_exact`).
-/
import GraphLexer.Proofs.Source

namespace GraphLexer

/-! ## Byte offsets -/

theorem length_offsets (byte : Nat) (cs : List Char) :
    (unitTables byte cs).2.length = Text.charsLength cs + 1 := by
  induction cs generalizing byte with
  | nil => rfl
  | cons c cs ih =>
    have hc := Text.charLength_pos c
    rw [offsets_unitTables_cons, List.length_append, List.length_cons, List.length_replicate, ih,
      Text.charsLength_cons]
    omega

theorem offset_append (front back : List Char) (byte : Nat) :
    (unitTables byte (front ++ back)).2[Text.charsLength front]? =
      some (some (byte + Text.byteLength front)) := by
  induction front generalizing byte with
  | nil => cases back <;> rfl
  | cons c front ih =>
    have hc := Text.charLength_pos c
    have hskipped : (some byte :: List.replicate (Text.charLength c - 1) none).length = Text.charLength c := by
      rw [List.length_cons, List.length_replicate]
      omega
    rw [List.cons_append, offsets_unitTables_cons, Text.charsLength_cons,
      List.getElem?_append_right (by omega), hskipped, Nat.add_sub_cancel_left, ih, byteLength_cons,
      Nat.add_assoc]

namespace Source

variable {text : String}

theorem viewOffsets_iff {pos b : Nat} : (ofText text).viewOffsets[pos]? = some b ↔
    ∃ front back, Text.view text = front ++ back ∧ front.length = pos ∧ Text.byteLength front = b := by
  have hlen : (Text.view text).length = (Text.units text).length := List.length_map _
  rw [viewOffsets_ofText]
  constructor
  · intro h
    split at h
    · next hle =>
      cases h
      refine ⟨_, _, (List.take_append_drop pos _).symm, ?_, rfl⟩
      rw [List.length_take, hlen, Nat.min_eq_left hle]
    · cases h
  · rintro ⟨front, back, happend, rfl, rfl⟩
    have hle : front.length ≤ (Text.units text).length := by
      rw [← hlen, happend, List.length_append]
      exact Nat.le_add_right _ _
    rw [if_pos hle, happend, List.take_left]

/-- The known byte offsets are those of the places between characters. -/
theorem byteOffsets_iff {pos b : Nat} : (ofText text).byteOffsets[pos]? = some (some b) ↔
    ∃ front back, text.toList = front ++ back ∧ Text.charsLength front = pos ∧ Text.byteLength front = b := by
  simp only [ofText_eq, List.getElem?_toArray]
  constructor
  · intro h
    obtain ⟨front, back, happend, hunits, hbytes⟩ := offset_eq_some h
    rw [Text.length_flatMap_charUnits] at hunits
    exact ⟨front, back, happend, hunits, by omega⟩
  · rintro ⟨front, back, happend, rfl, rfl⟩
    rw [happend, offset_append, Nat.zero_add]

/-! ## Exact slices -/

def decoded (text : String) (first last : Nat) : String :=
  Text.ofUnits (((Text.units text).drop first).take (last - first))

/-- The tables of a source are aligned: each has a place for each unit of the text, and those of offsets
    have one for the end. An offset is where some first characters end, of the view one for each unit, of
    the text those with that many units. What is taken from the source is exact: slices whichever way they
    are made, and the view from a position on. -/
structure Exact (s : Source) (text : String) : Prop where
  units : s.units.toList = Text.units text
  view : s.view.toList = s.units.toList.map Text.viewChar
  sizes : s.units.size = Text.length text ∧ s.viewOffsets.size = Text.length text + 1 ∧
    s.byteOffsets.size = Text.length text + 1
  viewOffset : ∀ pos b, s.viewOffsets[pos]? = some b ↔
    ∃ front back, s.view = front ++ back ∧ front.length = pos ∧ front.utf8ByteSize = b
  byteOffset : ∀ pos b, s.byteOffsets[pos]? = some (some b) ↔
    ∃ front back, text = front ++ back ∧ Text.length front = pos ∧ front.utf8ByteSize = b
  cut : ∀ first last a b, first ≤ last → s.byteOffsets[first]? = some (some a) →
    s.byteOffsets[last]? = some (some b) → Text.bytesBetween text a b = decoded text first last
  slice : ∀ start stop, s.slice start stop =
    decoded text (min start (min stop (Text.length text))) (min stop (Text.length text))
  length_slice : ∀ start stop, Text.length (s.slice start stop) =
    min stop (Text.length text) - min start (min stop (Text.length text))
  viewFrom : ∀ pos, (s.viewFrom pos).isSome ↔ pos ≤ Text.length text
  length_viewFrom : ∀ pos rest, s.viewFrom pos = some rest → rest.length = Text.length text - pos
  viewFrom_eq : ∀ pos rest, s.viewFrom pos = some rest → rest = (s.units.toList.drop pos).map Text.viewChar

theorem length_decoded {first last : Nat} (h : last ≤ Text.length text) :
    Text.length (decoded text first last) = last - first := by
  rw [Text.length_eq] at h
  rw [decoded, Text.length_ofUnits, List.length_take, List.length_drop]
  omega

theorem slice_eq_decoded (start stop : Nat) : (ofText text).slice start stop =
    decoded text (min start (min stop (Text.length text))) (min stop (Text.length text)) := by
  rw [slice_ofText, decoded, Text.length_eq, take_drop_min]

theorem exists_append_iff {cs : List Char} {p : List Char → Prop} :
    (∃ front back, cs = front ++ back ∧ p front) ↔
      ∃ front back : String, String.ofList cs = front ++ back ∧ p front.toList := by
  constructor
  · rintro ⟨front, back, rfl, h⟩
    exact ⟨String.ofList front, String.ofList back, String.ofList_append, by rwa [String.toList_ofList]⟩
  · rintro ⟨front, back, happend, h⟩
    refine ⟨front.toList, back.toList, ?_, h⟩
    rw [← String.toList_append, ← happend, String.toList_ofList]

theorem byteLength_toList (s : String) : Text.byteLength s.toList = s.utf8ByteSize := by
  rw [← utf8ByteSize_ofList, String.ofList_toList]

/-- **The tables of a source are aligned with its text, and slices are exact**, whichever of the two ways
    they are made in and also where an end is within a pair. -/
theorem ofText_exact (text : String) : (ofText text).Exact text where
  units := toList_units_ofText text
  view := by rw [toList_view_ofText, toList_units_ofText, Text.view]
  sizes := by
    refine ⟨?_, ?_, ?_⟩
    · rw [ofText_eq, List.size_toArray, Text.length_eq]
    · rw [ofText_eq, List.size_toArray, List.length_map, List.length_range, Text.length_eq]
    · rw [ofText_eq, List.size_toArray, length_offsets, Text.length]
  viewOffset pos b := by
    have hview : String.ofList (Text.view text) = (ofText text).view := by
      rw [← toList_view_ofText, String.ofList_toList]
    rw [viewOffsets_iff, exists_append_iff, hview]
    simp only [String.length_toList, byteLength_toList]
  byteOffset pos b := by
    rw [byteOffsets_iff, exists_append_iff, String.ofList_toList]
    simp only [byteLength_toList, Text.length]
  cut first last a b hle ha hb := bytesBetween_eq text hle ha hb
  slice := slice_eq_decoded
  length_slice start stop := by
    rw [slice_eq_decoded, length_decoded (Nat.min_le_right _ _)]
  viewFrom pos := by
    rw [viewFrom_ofText, Text.length_eq]
    split <;> simp_all
  length_viewFrom pos rest h := by
    rw [length_of_viewFrom text h, length_ofText, Text.length_eq]
  viewFrom_eq pos rest h := by
    rw [viewFrom_ofText] at h
    split at h
    · cases h
      rw [toList_units_ofText, Text.view, List.map_drop]
    · cases h

/-- Characters of all widths in the two tables of offsets. -/
example : (ofText "aé😀…").viewOffsets = #[0, 1, 3, 7, 11, 14] ∧
    (ofText "aé😀…").byteOffsets = #[some 0, some 1, some 3, none, some 7, some 10] := by decide +kernel

/-- Slices with both ends between characters, the start within a pair, and both ends within pairs. -/
example : (ofText "aé😀…😀").slice 1 5 = "é😀…" ∧ (ofText "aé😀…😀").slice 3 99 = "\uFFFD…😀" ∧
    (ofText "aé😀…😀").slice 3 6 = "\uFFFD…\uFFFD" := by decide +kernel

end Source

end GraphLexer
