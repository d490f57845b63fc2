/-
The tables of a source agree with the units of its text. Units and byte offsets are made in one pass over
the characters (`unitTables`), and the view in one over the units: the offset of each is the size of
the view so far (`viewTables_eq`). So what is cut off there is what is left of the view
(`viewFrom_ofText`). A slice is the decoding of the units between its ends, whichever of its two paths it
takes (`slice_ofText`).
-/
import GraphLexer.Proofs.Text.Bytes
import GraphLexer.Source

namespace GraphLexer

/-- Ends beyond a list cut it like its own end. -/
theorem take_drop_min {α : Type} (l : List α) (a b : Nat) :
    (l.drop (min a (min b l.length))).take (min b l.length - min a (min b l.length)) =
      (l.drop a).take (b - a) := by
  rcases Nat.lt_or_ge (min b l.length) a with h | h
  · rw [Nat.min_eq_right (Nat.le_of_lt h), Nat.sub_self, List.take_zero]
    rcases Nat.lt_or_ge b a with h' | h'
    · rw [Nat.sub_eq_zero_of_le (Nat.le_of_lt h'), List.take_zero]
    · rw [List.drop_eq_nil_of_le (by omega), List.take_nil]
  · rw [Nat.min_eq_left h]
    rcases Nat.le_total b l.length with h' | h'
    · rw [Nat.min_eq_left h']
    · rw [Nat.min_eq_right h', List.take_of_length_le (by simp),
        List.take_of_length_le (by simp; omega)]

/-! ## Views -/

/-- Each offset is the number of bytes of the characters before it. -/
theorem viewTables_eq (us : List UInt16) : ∀ (view : String) (offsets : Array Nat),
    viewTables view offsets us = (view ++ String.ofList (us.map Text.viewChar),
      offsets ++ ((List.range (us.length + 1)).map fun i =>
        view.utf8ByteSize + Text.byteLength ((us.map Text.viewChar).take i)).toArray) := by
  induction us with
  | nil => intro view offsets; simp [viewTables]
  | cons u us ih =>
    intro view offsets
    have hview : view.push (Text.viewChar u) ++ String.ofList (us.map Text.viewChar) =
        view ++ String.ofList ((u :: us).map Text.viewChar) := by
      rw [List.map_cons, String.ofList_cons, String.push_eq_append, String.append_assoc]
    have hoffsets : (List.range (us.length + 1 + 1)).map (fun i => view.utf8ByteSize +
          Text.byteLength (((u :: us).map Text.viewChar).take i)) =
        view.utf8ByteSize :: (List.range (us.length + 1)).map fun i =>
          (view.push (Text.viewChar u)).utf8ByteSize + Text.byteLength ((us.map Text.viewChar).take i) := by
      rw [@List.range_succ_eq_map (us.length + 1), List.map_cons, List.map_map]
      simp [String.utf8ByteSize_push, Nat.add_assoc]
    rw [viewTables, ih, hview, List.length_cons, hoffsets]
    simp

/-! ## Byte offsets -/

theorem units_unitTables (byte : Nat) (cs : List Char) :
    (unitTables byte cs).1 = cs.flatMap Text.charUnits := by
  induction cs generalizing byte with
  | nil => rfl
  | cons c cs ih => rw [unitTables, ih, List.flatMap_cons]

theorem offsets_unitTables_cons (byte : Nat) (c : Char) (cs : List Char) :
    (unitTables byte (c :: cs)).2 =
      some byte :: List.replicate (Text.charLength c - 1) none ++ (unitTables (byte + c.utf8Size) cs).2 := by
  rw [unitTables]
  unfold Text.charLength
  split <;> rfl

/-- A byte offset is known only at the end of some first characters. -/
theorem offset_eq_some {cs : List Char} : ∀ {byte i b : Nat}, (unitTables byte cs).2[i]? = some (some b) →
    ∃ front back, cs = front ++ back ∧ (front.flatMap Text.charUnits).length = i ∧
      b = byte + Text.byteLength front := by
  induction cs with
  | nil =>
    intro byte i b h
    cases i with
    | zero => exact ⟨[], [], rfl, rfl, by simpa [unitTables] using h.symm⟩
    | succ i => simp [unitTables] at h
  | cons c cs ih =>
    intro byte i b h
    have hc := Text.charLength_pos c
    rw [offsets_unitTables_cons] at h
    rcases Nat.lt_or_ge i (Text.charLength c) with hi | hi
    · rw [List.getElem?_append_left (by simpa using by omega)] at h
      cases i with
      | zero => exact ⟨[], c :: cs, rfl, rfl, by simpa using h.symm⟩
      | succ i =>
        -- within a pair nothing is known
        simp [List.getElem?_replicate] at h
    · rw [List.getElem?_append_right (by simpa using by omega)] at h
      obtain ⟨front, back, rfl, hunits, rfl⟩ := ih h
      refine ⟨c :: front, back, rfl, ?_, by simp; omega⟩
      rw [List.flatMap_cons, List.length_append, Text.length_charUnits, hunits, List.length_cons,
        List.length_replicate]
      omega

/-- Of two beginnings of a text, the one with fewer units is a beginning of the other. -/
theorem append_of_length_le {cs a a' b b' : List Char} (ha : cs = a ++ a') (hb : cs = b ++ b')
    (h : (a.flatMap Text.charUnits).length ≤ (b.flatMap Text.charUnits).length) :
    ∃ mid, b = a ++ mid := by
  rcases List.append_eq_append_iff.1 (ha.symm.trans hb) with ⟨mid, rfl, -⟩ | ⟨mid, rfl, -⟩
  · exact ⟨mid, rfl⟩
  · cases mid with
    | nil => exact ⟨[], by simp⟩
    | cons c mid =>
      have := Text.charLength_pos c
      simp [Text.length_charUnits] at h
      omega

namespace Source

variable (text : String)

theorem ofText_eq : ofText text = {
    text
    units := (Text.units text).toArray
    view := String.ofList (Text.view text)
    viewOffsets := ((List.range ((Text.units text).length + 1)).map fun i =>
      Text.byteLength ((Text.view text).take i)).toArray
    byteOffsets := (unitTables 0 text.toList).2.toArray } := by
  simp only [ofText, units_unitTables, viewTables_eq]
  simp [Text.view, Text.units]

theorem toList_units_ofText : (ofText text).units.toList = Text.units text := by
  rw [ofText_eq]

theorem toList_view_ofText : (ofText text).view.toList = Text.view text := by
  rw [ofText_eq, String.toList_ofList]

/-- The offset of a character of the view. -/
theorem viewOffsets_ofText (pos : Nat) : (ofText text).viewOffsets[pos]? =
    if pos ≤ (Text.units text).length then some (Text.byteLength ((Text.view text).take pos)) else none := by
  rw [ofText_eq]
  simp only [List.getElem?_toArray, List.getElem?_map]
  split
  · rw [List.getElem?_range (by omega)]
    rfl
  · rw [List.getElem?_eq_none (by rw [List.length_range]; omega)]
    rfl

theorem length_ofText : (ofText text).length = (Text.units text).length := by
  rw [length, ← Array.length_toList, toList_units_ofText]

theorem unitsFrom_ofText (pos : Nat) : (ofText text).unitsFrom pos =
    if pos ≤ (Text.units text).length then some ((Text.units text).drop pos) else none := by
  rw [unitsFrom, ← Array.length_toList, toList_units_ofText]

/-- The view is cut after the characters for the first units. -/
theorem viewFrom_ofText (pos : Nat) : (ofText text).viewFrom pos =
    if pos ≤ (Text.units text).length then some ((Text.view text).drop pos) else none := by
  rw [viewFrom, viewOffsets_ofText, toList_view_ofText]
  split
  · have hcut := dropBytes_append ((Text.view text).take pos) ((Text.view text).drop pos)
    rw [List.take_append_drop] at hcut
    rw [Option.map_some, hcut]
  · rfl

theorem unit?_ofText (pos : Nat) : (ofText text).unit? pos = (Text.units text)[pos]? := by
  rw [unit?, ← Array.getElem?_toList, toList_units_ofText]

theorem hasUnitsAt_ofText {pos : Nat} {us : List UInt16} : (ofText text).hasUnitsAt pos us = true ↔
    pos ≤ (Text.units text).length ∧ us <+: (Text.units text).drop pos := by
  rw [hasUnitsAt, unitsFrom_ofText]
  by_cases h : pos ≤ (Text.units text).length <;> simp [h]

/-! ## What is taken from a source is there -/

theorem length_le_of_hasUnitsAt {pos : Nat} {us : List UInt16}
    (h : (ofText text).hasUnitsAt pos us = true) : us.length ≤ (ofText text).length - pos := by
  rw [length_ofText, ← List.length_drop]
  exact ((hasUnitsAt_ofText text).1 h).2.length_le

theorem one_le_of_unit? {pos : Nat} {u : UInt16} (h : (ofText text).unit? pos = some u) :
    1 ≤ (ofText text).length - pos := by
  rw [unit?_ofText] at h
  have := (List.getElem?_eq_some_iff.1 h).1
  rw [length_ofText]; omega

theorem length_of_viewFrom {pos : Nat} {rest : List Char} (h : (ofText text).viewFrom pos = some rest) :
    rest.length = (ofText text).length - pos := by
  rw [viewFrom_ofText] at h
  split at h
  · cases h; simp [length_ofText, Text.view]
  · cases h

/-! ## Slices -/

/-- The text between two character boundaries is the decoding of the units between them. -/
theorem bytesBetween_eq {start stop a b : Nat} (h : start ≤ stop)
    (ha : (ofText text).byteOffsets[start]? = some (some a))
    (hb : (ofText text).byteOffsets[stop]? = some (some b)) :
    Text.bytesBetween text a b =
      Text.ofUnits (((Text.units text).drop start).take (stop - start)) := by
  simp only [ofText_eq, List.getElem?_toArray] at ha hb
  obtain ⟨front, back, hf, rfl, rfl⟩ := offset_eq_some ha
  obtain ⟨front', back', hf', rfl, rfl⟩ := offset_eq_some hb
  obtain ⟨mid, rfl⟩ := append_of_length_le hf hf' h
  have hu : Text.units text = front.flatMap Text.charUnits ++
      (mid.flatMap Text.charUnits ++ back'.flatMap Text.charUnits) := by
    rw [Text.units, hf']; simp
  have hn : ((front ++ mid).flatMap Text.charUnits).length - (front.flatMap Text.charUnits).length =
      (mid.flatMap Text.charUnits).length := by
    rw [List.flatMap_append, List.length_append]; omega
  have hs : 0 + Text.byteLength (front ++ mid) - (0 + Text.byteLength front) =
      Text.byteLength mid := by
    rw [byteLength_append]; omega
  rw [hn, hu, List.drop_left, List.take_left, Text.ofUnits, Text.decode_units, Text.bytesBetween,
    hs, Nat.zero_add, hf', List.append_assoc, dropBytes_append, takeBytes_append]

/-- **A slice is the decoding of the units between its ends**, as far as there are any. -/
theorem slice_ofText (start stop : Nat) : (ofText text).slice start stop =
    Text.ofUnits (((Text.units text).drop start).take (stop - start)) := by
  rw [← take_drop_min]
  simp only [slice, length_ofText]
  split
  · next a b ha hb => exact bytesBetween_eq text (Nat.min_le_right _ _) ha hb
  · rw [unitsFrom_ofText, if_pos (by omega), Option.getD_some]

/-! ## What follows a beginning of the text -/

section
variable (p r : String)

theorem drop_units_append (pos : Nat) :
    (Text.units (p ++ r)).drop (Text.length p + pos) = (Text.units r).drop pos := by
  rw [Text.units_append, Text.length_eq, List.drop_append, List.drop_eq_nil_of_le (by omega),
    List.nil_append, Nat.add_sub_cancel_left]

theorem length_append : (ofText (p ++ r)).length = Text.length p + (ofText r).length := by
  rw [length_ofText, length_ofText, Text.units_append, List.length_append, Text.length_eq]

theorem unitsFrom_append (pos : Nat) :
    (ofText (p ++ r)).unitsFrom (Text.length p + pos) = (ofText r).unitsFrom pos := by
  rw [unitsFrom_ofText, unitsFrom_ofText, drop_units_append]
  simp only [Text.units_append, List.length_append, Text.length_eq, Nat.add_le_add_iff_left]

theorem viewFrom_append (pos : Nat) :
    (ofText (p ++ r)).viewFrom (Text.length p + pos) = (ofText r).viewFrom pos := by
  rw [viewFrom_ofText, viewFrom_ofText, Text.view, Text.view, ← List.map_drop, ← List.map_drop,
    drop_units_append]
  simp only [Text.units_append, List.length_append, Text.length_eq, Nat.add_le_add_iff_left]

theorem hasUnitsAt_append (pos : Nat) (us : List UInt16) :
    (ofText (p ++ r)).hasUnitsAt (Text.length p + pos) us = (ofText r).hasUnitsAt pos us := by
  rw [hasUnitsAt, hasUnitsAt, unitsFrom_append]

theorem unit?_append (pos : Nat) :
    (ofText (p ++ r)).unit? (Text.length p + pos) = (ofText r).unit? pos := by
  rw [unit?_ofText, unit?_ofText, ← List.head?_drop, ← List.head?_drop, drop_units_append]

theorem slice_append (start stop : Nat) :
    (ofText (p ++ r)).slice (Text.length p + start) (Text.length p + stop) =
      (ofText r).slice start stop := by
  rw [slice_ofText, slice_ofText, drop_units_append, Nat.add_sub_add_left]

end

end Source

end GraphLexer
