/-
Texts and their UTF-16 units.

  * `decode_units_append`: decoding gives back the characters whose units come first;
  * `charsLength_decode`: decoding keeps the number of units, also where a surrogate stands alone.
-/
import GraphLexer.Text.Units

namespace GraphLexer.Text

/-! ## Characters -/

theorem toNat_lt (c : Char) : c.toNat < 0x110000 := by
  rcases c.valid with h | h
  · exact Nat.lt_trans h (by decide)
  · exact h.2

theorem not_surrogate (c : Char) : c.toNat < 0xD800 ∨ 0xDFFF < c.toNat := by
  rcases c.valid with h | h
  · exact Or.inl h
  · exact Or.inr h.1

theorem toNat_ofNat {n : Nat} (h : n.isValidChar) : (Char.ofNat n).toNat = n := by
  rw [Char.ofNat, dif_pos h]; rfl

theorem isHigh_iff (u : UInt16) : isHigh u = true ↔ 0xD800 ≤ u.toNat ∧ u.toNat < 0xDC00 := by
  simp [isHigh]

theorem isLow_iff (u : UInt16) : isLow u = true ↔ 0xDC00 ≤ u.toNat ∧ u.toNat < 0xE000 := by
  simp [isLow]

theorem length_charUnits (c : Char) : (charUnits c).length = charLength c := by
  unfold charUnits charLength; split <;> rfl

theorem charLength_pos (c : Char) : 0 < charLength c := by
  unfold charLength; split <;> decide

/-! ## Units of a text -/

@[simp] theorem charsLength_nil : charsLength [] = 0 := rfl

@[simp] theorem charsLength_cons (c : Char) (cs : List Char) :
    charsLength (c :: cs) = charLength c + charsLength cs := rfl

theorem length_flatMap_charUnits (cs : List Char) : (cs.flatMap charUnits).length = charsLength cs := by
  induction cs with
  | nil => rfl
  | cons c cs ih => simp [length_charUnits, ih]

theorem length_eq (s : String) : length s = (units s).length :=
  (length_flatMap_charUnits s.toList).symm

theorem units_append (p r : String) : units (p ++ r) = units p ++ units r := by
  simp [units]

/-! ## Decoding -/

theorem decode_charUnits_append (c : Char) (us : List UInt16) :
    decode (charUnits c ++ us) = c :: decode us := by
  have hlt := toNat_lt c
  have hs := not_surrogate c
  unfold charUnits
  by_cases hc : c.toNat < 0x10000
  · have hu : (UInt16.ofNat c.toNat).toNat = c.toNat := by
      rw [UInt16.toNat_ofNat']; exact Nat.mod_eq_of_lt hc
    have hh : isHigh (UInt16.ofNat c.toNat) = false := by
      rw [Bool.eq_false_iff, ne_eq, isHigh_iff, hu]; omega
    have hl : isLow (UInt16.ofNat c.toNat) = false := by
      rw [Bool.eq_false_iff, ne_eq, isLow_iff, hu]; omega
    rw [if_pos hc, List.singleton_append, decode.eq_def]
    simp only [hh, hl, hu, Bool.false_eq_true, if_false, Char.ofNat_toNat]
  · have hu : (UInt16.ofNat (0xD800 + (c.toNat - 0x10000) / 0x400)).toNat =
        0xD800 + (c.toNat - 0x10000) / 0x400 := by
      rw [UInt16.toNat_ofNat']; exact Nat.mod_eq_of_lt (by omega)
    have hv : (UInt16.ofNat (0xDC00 + (c.toNat - 0x10000) % 0x400)).toNat =
        0xDC00 + (c.toNat - 0x10000) % 0x400 := by
      rw [UInt16.toNat_ofNat']; exact Nat.mod_eq_of_lt (by omega)
    have hh : isHigh (UInt16.ofNat (0xD800 + (c.toNat - 0x10000) / 0x400)) = true := by
      rw [isHigh_iff, hu]; omega
    have hl : isLow (UInt16.ofNat (0xDC00 + (c.toNat - 0x10000) % 0x400)) = true := by
      rw [isLow_iff, hv]; omega
    have hp : pairChar (UInt16.ofNat (0xD800 + (c.toNat - 0x10000) / 0x400))
        (UInt16.ofNat (0xDC00 + (c.toNat - 0x10000) % 0x400)) = c := by
      have hn : 0x10000 + (0xD800 + (c.toNat - 0x10000) / 0x400 - 0xD800) * 0x400 +
          (0xDC00 + (c.toNat - 0x10000) % 0x400 - 0xDC00) = c.toNat := by omega
      rw [pairChar, hu, hv, hn, Char.ofNat_toNat]
    rw [if_neg hc, List.cons_append, List.singleton_append, decode.eq_def]
    simp only [hh, hl, hp, if_true]

/-- **Decoding gives back the characters whose units come first.** -/
theorem decode_units_append (cs : List Char) (us : List UInt16) :
    decode (cs.flatMap charUnits ++ us) = cs ++ decode us := by
  induction cs with
  | nil => rfl
  | cons c cs ih =>
    rw [List.flatMap_cons, List.append_assoc, decode_charUnits_append, ih, List.cons_append]

theorem decode_units (cs : List Char) : decode (cs.flatMap charUnits) = cs := by
  have h := decode_units_append cs []
  rwa [List.append_nil, decode, List.append_nil] at h

theorem charLength_pairChar {u v : UInt16} (hu : isHigh u = true) (hv : isLow v = true) :
    charLength (pairChar u v) = 2 := by
  rw [isHigh_iff] at hu
  rw [isLow_iff] at hv
  have hn : (0x10000 + (u.toNat - 0xD800) * 0x400 + (v.toNat - 0xDC00)).isValidChar :=
    Or.inr ⟨by omega, by omega⟩
  rw [charLength, pairChar, toNat_ofNat hn, if_neg (by omega)]

theorem charLength_ofNat {u : UInt16} (hu : isHigh u = false) (hv : isLow u = false) :
    charLength (Char.ofNat u.toNat) = 1 := by
  have hlt := u.toNat_lt
  rw [Bool.eq_false_iff, ne_eq, isHigh_iff] at hu
  rw [Bool.eq_false_iff, ne_eq, isLow_iff] at hv
  have hn : u.toNat.isValidChar := by
    rcases Nat.lt_or_ge u.toNat 0xD800 with h | h
    · exact Or.inl h
    · exact Or.inr ⟨by omega, by omega⟩
  rw [charLength, toNat_ofNat hn, if_pos (by omega)]

/-- **Decoding keeps the number of units**: a surrogate without its partner becomes one unit. -/
theorem charsLength_decode (us : List UInt16) : charsLength (decode us) = us.length := by
  have hr : charLength replacement = 1 := by decide
  fun_induction decode us with
  | case1 => rfl
  | case2 u h => simp [hr]
  | case3 u h v rest hv ih => simp [ih, charLength_pairChar h hv]; omega
  | case4 u h v rest hv ih => simp [ih, hr]; omega
  | case5 u rest h hl ih => simp [ih, hr]; omega
  | case6 u rest h hl ih =>
    rw [charsLength_cons, ih, charLength_ofNat (Bool.eq_false_iff.2 h) (Bool.eq_false_iff.2 hl),
      List.length_cons]
    omega

theorem length_ofUnits (us : List UInt16) : length (ofUnits us) = us.length := by
  rw [length, ofUnits, String.toList_ofList, charsLength_decode]

end GraphLexer.Text
