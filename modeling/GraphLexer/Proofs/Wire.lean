/-
What is written in the wire format is read back.

`Reads value bytes a` says that a reader takes `a` from `bytes` and leaves whatever follows them, so the
statements are put together as the bytes are. A number is read back if its last digit is allowed
(`reads_number`), and so a word always is, and a length below `2 ^ 64`.
-/
import Mathlib.Algebra.Ring.Nat
import GraphLexer.Proofs.Text.Utf8
import GraphLexer.Wire

namespace GraphLexer

/-! ## Results that may be errors -/

section

variable {ε α β : Type}

theorem ok_bind (a : α) (f : α → Except ε β) : (Except.ok a >>= f) = f a := rfl

theorem error_bind (e : ε) (f : α → Except ε β) : (Except.error e >>= f) = .error e := rfl

theorem bind_eq_ok {x : Except ε α} {f : α → Except ε β} {b : β} :
    (x >>= f) = .ok b ↔ ∃ a, x = .ok a ∧ f a = .ok b := by
  cases x with
  | error e => exact ⟨fun h => (by cases h), fun ⟨a, h, _⟩ => (by cases h)⟩
  | ok a => exact ⟨fun h => ⟨a, rfl, h⟩, fun ⟨a', h, hf⟩ => (by cases h; exact hf)⟩

theorem map_eq_ok {x : Except ε α} {f : α → β} {b : β} :
    x.map f = .ok b ↔ ∃ a, x = .ok a ∧ f a = b := by
  cases x with
  | error e => exact ⟨fun h => (by cases h), fun ⟨a, h, _⟩ => (by cases h)⟩
  | ok a => exact ⟨fun h => ⟨a, rfl, by cases h; rfl⟩, fun ⟨a', h, hf⟩ => (by cases h; cases hf; rfl)⟩

end

namespace Wire

variable {α : Type}

/-- A reader takes a value from some bytes, whatever follows them. -/
def Reads (value : Reader α) (bytes : List UInt8) (a : α) : Prop :=
  ∀ rest, value (bytes ++ rest) = .ok (a, rest)

/-! ## Numbers -/

/-- A digit, with the highest bit set or not. -/
theorem toNat_digit {n : Nat} (h : n < 256) : (UInt8.ofNat n).toNat = n := by
  rw [UInt8.toNat_ofNat', Nat.mod_eq_of_lt h]

/-- A number is read back if its last digit stays below `top`, by induction on its digits. -/
theorem reads_number {top : Nat} (htop : top ≤ 128) : ∀ {count n : Nat}, n < 128 ^ count * top →
    Reads (number top (count + 1)) (digits (count + 1) n) n
  | 0, n, h, rest => by
    have hn : n < top := by simpa using h
    rw [digits, if_pos (by omega), number, List.singleton_append, byte, ok_bind]
    simp only [toNat_digit (by omega : n < 256)]
    rw [if_pos (by omega), if_neg (by omega)]
  | count + 1, n, h, rest => by
    by_cases hn : n < 128
    · rw [digits, if_pos hn, number, List.singleton_append, byte, ok_bind]
      simp only [toNat_digit (by omega : n < 256)]
      rw [if_pos hn, if_neg (by omega)]
    · have hdiv : n / 128 < 128 ^ count * top := by
        rw [Nat.div_lt_iff_lt_mul (by decide)]
        rwa [Nat.pow_succ, Nat.mul_right_comm] at h
      have ih := reads_number htop hdiv rest
      rw [digits, if_neg hn, number, List.cons_append, byte, ok_bind]
      simp only [toNat_digit (by omega : 128 + n % 128 < 256)]
      rw [if_neg (by omega), ih, ok_bind]
      simp only [Except.ok.injEq, Prod.mk.injEq, and_true]
      omega

theorem reads_word (n : UInt32) : Reads word (putWord n) n := by
  intro rest
  have hn : n.toNat < 128 ^ 4 * 16 := n.toNat_lt
  rw [word, putWord, reads_number (by decide) hn, ok_bind]
  dsimp only
  rw [UInt32.ofNat_toNat]

theorem reads_length {n : Nat} (h : n < 2 ^ 64) : Reads length (putLength n) n :=
  reads_number (by decide) (by omega : n < 128 ^ 9 * 2)

/-! ## Texts, truth values, optional values and lists -/

theorem reads_text {s : String} (h : (Text.utf8 s).length < 2 ^ 64) : Reads text (putText s) s := by
  intro rest
  rw [text, putText, List.append_assoc, reads_length h, ok_bind]
  dsimp only
  rw [if_neg (by simp), List.take_left, List.drop_left, Text.ofUtf8?_utf8]

theorem reads_bool (b : Bool) : Reads bool (putBool b) b := by
  intro rest
  cases b <;> rfl

theorem reads_option {value : Reader α} {put : α → List UInt8} (h : ∀ a, Reads value (put a) a)
    (o : Option α) : Reads (option value) (putOption put o) o := by
  intro rest
  cases o with
  | none => rfl
  | some a =>
    rw [option, putOption, List.cons_append, byte, ok_bind]
    dsimp only
    rw [if_neg (by decide), if_pos rfl, h a rest, ok_bind]

/-- Values one after the other, by induction on their list. -/
theorem reads_times {value : Reader α} {put : α → List UInt8} : ∀ {as : List α},
    (∀ a ∈ as, Reads value (put a) a) → Reads (times value as.length) (as.flatMap put) as
  | [], _, _ => rfl
  | a :: as, h, rest => by
    have ha := h a (by simp)
    have has := reads_times fun b (hb : b ∈ as) => h b (by simp [hb])
    rw [List.length_cons, times, List.flatMap_cons, List.append_assoc, ha, ok_bind]
    dsimp only
    rw [has, ok_bind]

theorem reads_list {value : Reader α} {put : α → List UInt8} {as : List α} (hlen : as.length < 2 ^ 64)
    (h : ∀ a ∈ as, Reads value (put a) a) :
    Reads (list value) (putLength as.length ++ as.flatMap put) as := by
  intro rest
  rw [list, List.append_assoc, reads_length hlen, ok_bind]
  exact reads_times h rest

end Wire

end GraphLexer
