/-
Texts and their bytes.

The bytes of a text spell it, and the bytes of its characters follow each other. A byte below 128 is always
a character of its own: it is one in every text that has the byte (`mem_of_mem_utf8`), and decoding keeps
it whatever is around it (`mem_decodeLossy`).
-/
import Mathlib.Data.List.TakeWhile
import GraphLexer.Text.Utf8

namespace GraphLexer.Text

theorem loop_toList (bytes : ByteArray) (i : Nat) (before : List UInt8) :
    ByteArray.toList.loop bytes i before = before.reverse ++ bytes.data.toList.drop i := by
  fun_induction ByteArray.toList.loop bytes i before with
  | case1 i before h ih =>
    have hi : i < bytes.data.toList.length := h
    rw [ih, List.drop_eq_getElem_cons hi, List.reverse_cons, List.append_assoc, List.singleton_append]
    congr 2
    exact getElem!_pos bytes.data i hi
  | case2 i before h =>
    have hi : bytes.data.toList.length ≤ i := Nat.le_of_not_lt h
    rw [List.drop_eq_nil_of_le hi, List.append_nil]

theorem utf8_eq (s : String) : utf8 s = s.toByteArray.data.toList := by
  rw [utf8, ByteArray.toList, loop_toList]
  rfl

/-- The bytes of a text spell it. -/
theorem ofUtf8?_utf8 (s : String) : ofUtf8? (utf8 s) = some s := by
  have hbytes : (⟨(utf8 s).toArray⟩ : ByteArray) = s.toByteArray := by
    rw [utf8_eq, Array.toArray_toList]
  rw [ofUtf8?, hbytes, String.fromUTF8?, dif_pos s.isValidUTF8]
  rfl

theorem utf8_of_ofUtf8? {bytes : List UInt8} {s : String} (h : ofUtf8? bytes = some s) : utf8 s = bytes := by
  unfold ofUtf8? String.fromUTF8? at h
  split at h
  · cases h
    rw [utf8_eq]
    rfl
  · cases h

/-- The bytes of a text are those of its characters. -/
theorem utf8_eq_flatMap (s : String) : utf8 s = s.toList.flatMap String.utf8EncodeChar := by
  rw [utf8_eq, ← String.utf8Encode_toList, List.utf8Encode, List.data_toByteArray]

/-! ## Bytes below 128 -/

theorem toNat_eq_of_mem_utf8EncodeChar {c : Char} {b : UInt8} (hb : b ∈ String.utf8EncodeChar c)
    (hlt : b.toNat < 128) : c.toNat = b.toNat := by
  have hbyte : ∀ {n : Nat}, b = UInt8.ofNat n → n < 256 → b.toNat = n := by
    rintro n rfl hn
    rw [UInt8.toNat_ofNat', Nat.mod_eq_of_lt hn]
  unfold String.utf8EncodeChar at hb
  dsimp only at hb
  split at hb
  · next hc => exact (hbyte (List.mem_singleton.1 hb) (by omega)).symm
  -- every byte of a longer character has its highest bit set
  exfalso
  split at hb
  · simp only [List.mem_cons, List.not_mem_nil, or_false] at hb
    rcases hb with h | h <;> have := hbyte h (by omega) <;> omega
  split at hb
  · simp only [List.mem_cons, List.not_mem_nil, or_false] at hb
    rcases hb with h | h | h <;> have := hbyte h (by omega) <;> omega
  · simp only [List.mem_cons, List.not_mem_nil, or_false] at hb
    rcases hb with h | h | h | h <;> have := hbyte h (by omega) <;> omega

theorem mem_of_mem_utf8 {s : String} {b : UInt8} (hb : b ∈ utf8 s) (hlt : b.toNat < 128) :
    Char.ofNat b.toNat ∈ s.toList := by
  rw [utf8_eq_flatMap] at hb
  obtain ⟨c, hc, hbc⟩ := List.mem_flatMap.1 hb
  rwa [← toNat_eq_of_mem_utf8EncodeChar hbc hlt, Char.ofNat_toNat]

theorem le_of_tailShape {b : UInt8} {count low high : Nat} (h : tailShape b = some (count, low, high)) :
    128 ≤ low := by
  unfold tailShape at h
  dsimp only at h
  repeat' split at h
  all_goals first | (cases h; decide) | cases h

/-- The bytes that go on with a character come next, and none of them is below 128. -/
theorem tails_prefix {low : Nat} (hlow : 128 ≤ low) (count high : Nat) (bytes : List UInt8) :
    tails count low high bytes <+: bytes ∧ ∀ b ∈ tails count low high bytes, 128 ≤ b.toNat := by
  unfold tails
  split
  · exact ⟨List.prefix_rfl, fun _ hb => absurd hb List.not_mem_nil⟩
  · next first rest =>
    split
    · exact ⟨List.nil_prefix, fun _ hb => absurd hb List.not_mem_nil⟩
    · next hfirst =>
      simp only [Bool.or_eq_true, decide_eq_true_eq, not_or] at hfirst
      refine ⟨List.cons_prefix_cons.2 ⟨rfl, ?_⟩, fun b hb => ?_⟩
      · exact (List.takeWhile_prefix _).trans (List.take_prefix _ _)
      · rcases List.mem_cons.1 hb with rfl | hb
        · omega
        · have htail := List.mem_takeWhile_imp hb
          simp only [isTail, Bool.and_eq_true, decide_eq_true_eq] at htail
          exact htail.1

theorem mem_repair {b : UInt8} (hlt : b.toNat < 128) : ∀ {fuel : Nat} {bytes : List UInt8},
    bytes.length ≤ fuel → b ∈ bytes → Char.ofNat b.toNat ∈ repair fuel bytes
  | 0, bytes, hlen, hb => by
    rw [List.length_eq_zero_iff.1 (Nat.le_zero.1 hlen)] at hb
    cases hb
  | fuel + 1, first :: rest, hlen, hb => by
    have hshape : first = b → tailShape first = some (0, 0x80, 0xBF) := by
      rintro rfl
      exact if_pos hlt
    rw [List.length_cons] at hlen
    rw [repair]
    split
    · next hnone =>
      refine List.mem_cons_of_mem _ (mem_repair hlt (by omega) ((List.mem_cons.1 hb).resolve_left ?_))
      rintro rfl
      rw [hshape rfl] at hnone
      cases hnone
    · next count low high hsome =>
      dsimp only
      rcases List.mem_cons.1 hb with rfl | hb
      · rw [hshape rfl] at hsome
        cases hsome
        have htails : tails 0 0x80 0xBF rest = [] := by
          cases rest <;> simp [tails]
        rw [htails, List.length_nil, if_pos rfl]
        exact List.mem_cons_self
      · have hfound := tails_prefix (le_of_tailShape hsome) count high rest
        generalize tails count low high rest = found at hfound ⊢
        obtain ⟨⟨later, rfl⟩, hhigh⟩ := hfound
        rw [List.drop_left]
        refine List.mem_cons_of_mem _ (mem_repair hlt ?_ ?_)
        · rw [List.length_append] at hlen
          omega
        · exact (List.mem_append.1 hb).resolve_left fun hb => absurd (hhigh b hb) (Nat.not_le.2 hlt)

theorem mem_decodeLossy {b : UInt8} (hlt : b.toNat < 128) {bytes : List UInt8} (hb : b ∈ bytes) :
    Char.ofNat b.toNat ∈ (decodeLossy bytes).toList := by
  unfold decodeLossy
  split
  · next s hs => exact mem_of_mem_utf8 (utf8_of_ofUtf8? hs ▸ hb) hlt
  · rw [String.toList_ofList]
    exact mem_repair hlt (Nat.le_refl _) hb

end GraphLexer.Text
