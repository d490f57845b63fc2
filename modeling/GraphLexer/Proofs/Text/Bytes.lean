/-
Texts that are cut at byte offsets, and at character boundaries.

A cut at the bytes of some first characters gives back these characters and the ones after them. The
boundary that is found for a unit offset is such a place (`boundaryFrom_spec`), and no boundary before it
is at or after the offset (`boundaryFrom_le`). `CutAfter` says where a text is cut to go on after an
offset.
-/
import GraphLexer.Proofs.Text.Units

namespace GraphLexer

@[simp] theorem byteLength_nil : Text.byteLength [] = 0 := rfl

@[simp] theorem byteLength_cons (c : Char) (cs : List Char) :
    Text.byteLength (c :: cs) = c.utf8Size + Text.byteLength cs := rfl

theorem byteLength_append (cs ds : List Char) :
    Text.byteLength (cs ++ ds) = Text.byteLength cs + Text.byteLength ds := by
  induction cs with
  | nil => exact (Nat.zero_add _).symm
  | cons c cs ih => rw [List.cons_append, byteLength_cons, byteLength_cons, ih, Nat.add_assoc]

theorem dropBytes_append (front back : List Char) :
    Text.dropBytes (Text.byteLength front) (front ++ back) = back := by
  induction front with
  | nil => cases back <;> simp [Text.dropBytes]
  | cons c front ih =>
    have := c.utf8Size_pos
    simp only [byteLength_cons, List.cons_append, Text.dropBytes]
    rw [if_neg (by omega), Nat.add_sub_cancel_left, ih]

theorem takeBytes_append (front back : List Char) :
    Text.takeBytes (Text.byteLength front) (front ++ back) = front := by
  induction front with
  | nil => cases back <;> simp [Text.takeBytes]
  | cons c front ih =>
    have := c.utf8Size_pos
    simp only [byteLength_cons, List.cons_append, Text.takeBytes]
    rw [if_neg (by omega), Nat.add_sub_cancel_left, ih]

/-- A boundary is after some first characters, and not before the offset unless the text ends. -/
theorem boundaryFrom_spec (offset : Nat) : ∀ (cs : List Char) (seen bytes : Nat),
    ∃ front back, cs = front ++ back ∧ (back = [] ∨ offset ≤ seen + Text.charsLength front) ∧
      Text.boundaryFrom offset cs seen bytes =
        (seen + Text.charsLength front, bytes + Text.byteLength front)
  | [], _, _ => ⟨[], [], rfl, Or.inl rfl, rfl⟩
  | c :: cs, seen, bytes => by
    rw [Text.boundaryFrom]
    split
    · next h => exact ⟨[], c :: cs, rfl, Or.inr h, rfl⟩
    · obtain ⟨front, back, rfl, hback, h⟩ :=
        boundaryFrom_spec offset cs (seen + Text.charLength c) (bytes + c.utf8Size)
      rw [Nat.add_assoc, ← Text.charsLength_cons] at hback
      rw [Nat.add_assoc, ← Text.charsLength_cons, Nat.add_assoc, ← byteLength_cons] at h
      exact ⟨c :: front, back, rfl, hback, h⟩

/-- The boundary that is found is not after any other one at or after the offset. -/
theorem boundaryFrom_le (offset : Nat) : ∀ (front back : List Char) (seen bytes : Nat),
    offset ≤ seen + Text.charsLength front →
    (Text.boundaryFrom offset (front ++ back) seen bytes).1 ≤ seen + Text.charsLength front
  | [], [], _, _, _ => Nat.le_refl _
  | [], c :: back, seen, bytes, h => by
    have hseen : offset ≤ seen := h
    rw [List.nil_append, Text.boundaryFrom, if_pos hseen]
    exact Nat.le_refl seen
  | c :: front, back, seen, bytes, h => by
    rw [List.cons_append, Text.boundaryFrom]
    split
    · exact Nat.le_add_right _ _
    · rw [Text.charsLength_cons, ← Nat.add_assoc] at h ⊢
      exact boundaryFrom_le offset front back _ _ h

/-! ## Boundaries -/

theorem utf8ByteSize_ofList (cs : List Char) : (String.ofList cs).utf8ByteSize = Text.byteLength cs := by
  induction cs with
  | nil => rfl
  | cons c cs ih =>
    rw [String.ofList_cons, String.utf8ByteSize_append, String.utf8ByteSize_singleton, ih, byteLength_cons]

/-- The boundaries of a text are the places after its first characters. -/
theorem isValid_iff {s : String} {place : Nat} : (String.Pos.Raw.mk place).IsValid s ↔
    ∃ front back, s.toList = front ++ back ∧ place = Text.byteLength front := by
  rw [String.Pos.Raw.isValid_iff_exists_append]
  constructor
  · rintro ⟨front, back, rfl, hplace⟩
    refine ⟨front.toList, back.toList, String.toList_append, ?_⟩
    rw [← utf8ByteSize_ofList, String.ofList_toList]
    exact congrArg String.Pos.Raw.byteIdx hplace
  · rintro ⟨front, back, happend, rfl⟩
    refine ⟨String.ofList front, String.ofList back, ?_, ?_⟩
    · rw [← String.ofList_append, ← happend, String.ofList_toList]
    · ext
      exact (utf8ByteSize_ofList front).symm

/-- The byte offset that is found for a unit offset is a boundary. -/
theorem isValid_byteOffset (s : String) (offset : Nat) :
    (String.Pos.Raw.mk (Text.byteOffset s offset)).IsValid s := by
  obtain ⟨front, back, happend, -, hfound⟩ := boundaryFrom_spec offset s.toList 0 0
  have hbytes : Text.byteOffset s offset = Text.byteLength front := by
    rw [Text.byteOffset, Text.boundaryAt, hfound]
    exact Nat.zero_add _
  exact isValid_iff.2 ⟨front, back, happend, hbytes⟩

namespace Text

theorem charsLength_append (cs ds : List Char) :
    charsLength (cs ++ ds) = charsLength cs + charsLength ds := by
  induction cs with
  | nil => exact (Nat.zero_add _).symm
  | cons c cs ih => rw [List.cons_append, charsLength_cons, charsLength_cons, ih, Nat.add_assoc]

/-- A text is cut in two at its first character boundary after an offset. -/
structure CutAfter (text : List Char) (offset : Nat) (front rest : List Char) : Prop where
  append : text = front ++ rest
  lt_length : offset < charsLength front
  length_le : ∀ front' rest', text = front' ++ rest' → offset < charsLength front' →
    charsLength front ≤ charsLength front'

/-- Where what follows `front` is cut, the whole text is cut. -/
theorem CutAfter.after {rest skipped left : List Char} {offset : Nat} (h : CutAfter rest offset skipped left)
    (front : List Char) :
    CutAfter (front ++ rest) (charsLength front + offset) (front ++ skipped) left where
  append := by rw [h.append, List.append_assoc]
  lt_length := by
    rw [charsLength_append]
    exact Nat.add_lt_add_left h.lt_length _
  length_le front' rest' htext hlt := by
    rcases List.append_eq_append_iff.1 htext with ⟨mid, rfl, hrest⟩ | ⟨mid, rfl, -⟩
    · rw [charsLength_append] at hlt
      have hle := h.length_le mid rest' hrest (by omega)
      rw [charsLength_append, charsLength_append]
      omega
    · rw [charsLength_append] at hlt
      omega

end Text

end GraphLexer
