/-
Strings and natural numbers are read back from what is written for them.

A string is read back character by character (`charsUpTo_quoteChar`), whatever follows it. A number ends
where no character follows that could go on with it (`Apart`), and one of 32 bits is far from the largest
number that a reader accepts (`number_digits`).
-/
import GraphLexer.Json.Reader
import GraphLexer.Proofs.Wire

namespace GraphLexer.Json

/-! ## Strings -/

theorem hexValue?_hexDigit : ∀ n < 16, hexValue? (hexDigit n) = some n := by decide

/-- The two last digits of an escape by units are those of ASCII characters. -/
theorem byteLength_hexDigits : ∀ m < 16, ∀ n < 16,
    Text.byteLength ['0', '0', hexDigit m, hexDigit n] = 4 := by decide

theorem hex4_hexDigits {n : Nat} (h : n < 0x100) (rest : List Char) :
    hex4 ('0' :: '0' :: hexDigit (n / 16) :: hexDigit (n % 16) :: rest) = .ok (n, rest) := by
  have hzero : hexValue? '0' = some 0 := by decide
  have hhigh := hexValue?_hexDigit (n / 16) (by omega)
  have hlow := hexValue?_hexDigit (n % 16) (by omega)
  have hlen := byteLength_hexDigits (n / 16) (by omega) (n % 16) (by omega)
  rw [hex4, List.take_succ_cons, List.take_succ_cons, List.take_succ_cons, List.take_succ_cons,
    List.take_zero, hlen, if_neg (by decide)]
  simp only [hzero, hhigh, hlow, Except.ok.injEq, Prod.mk.injEq, and_true]
  omega

/-- A control character is read back from its escape. -/
theorem escaped_control {c : Char} (h : c.toNat < 0x20) (rest : List Char) :
    escaped ('u' :: '0' :: '0' :: hexDigit (c.toNat / 16) :: hexDigit (c.toNat % 16) :: rest) =
      .ok (c, rest) := by
  rw [escaped, escapedUnits, hex4_hexDigits (by omega), ok_bind]
  dsimp only
  rw [if_pos (Or.inl (by omega)), Char.ofNat_toNat]

/-- A character is written as itself, as an escape with a letter, or as one by its unit. -/
theorem quoteChar_cases (c : Char) :
    (quoteChar c = [c] ∧ c ≠ '"' ∧ c ≠ '\\' ∧ ¬ c.toNat < 0x20) ∨
    (∃ letter, quoteChar c = ['\\', letter] ∧ ∀ rest, escaped (letter :: rest) = .ok (c, rest)) ∨
    c.toNat < 0x20 ∧
      quoteChar c = ['\\', 'u', '0', '0', hexDigit (c.toNat / 16), hexDigit (c.toNat % 16)] := by
  unfold quoteChar
  repeat' split
  -- the seven characters with a letter of their own come first
  iterate 7
    next hc =>
      subst hc
      exact Or.inr (Or.inl ⟨_, rfl, fun _ => rfl⟩)
  · next hcontrol => exact Or.inr (Or.inr ⟨hcontrol, rfl⟩)
  · next hquote hslash _ _ _ _ _ hcontrol => exact Or.inl ⟨rfl, hquote, hslash, hcontrol⟩

/-- A character is read back from how it is written, before whatever follows. -/
theorem charsUpTo_quoteChar (c : Char) (fuel : Nat) (rest : List Char) :
    charsUpTo (fuel + 1) (quoteChar c ++ rest) =
      (charsUpTo fuel rest).map fun (cs, left) => (c :: cs, left) := by
  have hescape : ∀ {cs : List Char}, escaped (cs ++ rest) = .ok (c, rest) →
      charsUpTo (fuel + 1) ('\\' :: cs ++ rest) =
        (charsUpTo fuel rest).map fun (cs, left) => (c :: cs, left) := by
    intro cs he
    rw [List.cons_append, charsUpTo, if_neg (by decide), if_pos rfl, he, ok_bind]
    dsimp only
    cases charsUpTo fuel rest <;> rfl
  rcases quoteChar_cases c with ⟨hc, hquote, hslash, hcontrol⟩ | ⟨letter, hc, he⟩ | ⟨hcontrol, hc⟩
  · rw [hc, List.singleton_append, charsUpTo, if_neg hquote, if_neg hslash, if_neg hcontrol]
    cases charsUpTo fuel rest <;> rfl
  · rw [hc]
    exact hescape (he rest)
  · rw [hc]
    exact hescape (escaped_control hcontrol rest)

theorem charsUpTo_flatMap : ∀ {cs : List Char} {fuel : Nat}, cs.length < fuel → ∀ rest : List Char,
    charsUpTo fuel (cs.flatMap quoteChar ++ '"' :: rest) = .ok (cs, rest)
  | [], fuel + 1, _, rest => by
    rw [List.flatMap_nil, List.nil_append, charsUpTo, if_pos rfl]
  | c :: cs, fuel + 1, h, rest => by
    rw [List.length_cons] at h
    rw [List.flatMap_cons, List.append_assoc, charsUpTo_quoteChar, charsUpTo_flatMap (by omega) rest]
    rfl

theorem length_quoteChar_pos (c : Char) : 0 < (quoteChar c).length := by
  rcases quoteChar_cases c with ⟨hc, -⟩ | ⟨letter, hc, -⟩ | ⟨-, hc⟩ <;> simp [hc]

theorem length_le_flatMap_quoteChar (cs : List Char) : cs.length ≤ (cs.flatMap quoteChar).length := by
  induction cs with
  | nil => exact Nat.le_refl _
  | cons c cs ih =>
    have := length_quoteChar_pos c
    rw [List.flatMap_cons, List.length_append, List.length_cons]
    omega

theorem quote_append (s : String) (rest : List Char) :
    quote s ++ rest = '"' :: (s.toList.flatMap quoteChar ++ '"' :: rest) := by
  simp [quote]

/-- **A string is read back**, whatever follows it. -/
theorem stringBody_quote (s : String) (rest : List Char) :
    stringBody (s.toList.flatMap quoteChar ++ '"' :: rest) = .ok (s, rest) := by
  have hlen := length_le_flatMap_quoteChar s.toList
  have hfuel : s.toList.length < (s.toList.flatMap quoteChar ++ '"' :: rest).length + 1 := by
    rw [List.length_append]
    omega
  rw [stringBody, charsUpTo_flatMap hfuel, ok_bind]
  simp

/-! ## Numbers -/

/-- What follows a number does not go on with it. -/
def Apart (rest : List Char) : Prop :=
  ∀ c ∈ rest.head?, c.isDigit = false ∧ c ≠ '.' ∧ c ≠ 'e' ∧ c ≠ 'E'

theorem apart_cons {c : Char} (h : c.isDigit = false ∧ c ≠ '.' ∧ c ≠ 'e' ∧ c ≠ 'E') (rest : List Char) :
    Apart (c :: rest) := by
  intro d hd
  cases hd
  exact h

theorem toList_toString (n : Nat) : (toString n).toList = Nat.toDigits 10 n :=
  Nat.toList_repr

theorem digitsValue_toDigits (n : Nat) : digitsValue (Nat.toDigits 10 n) = n :=
  Nat.ofDigitChars_ten_toDigits

theorem all_isDigit_toDigits (n : Nat) : ∀ c ∈ Nat.toDigits 10 n, c.isDigit = true :=
  fun _ hc => Nat.isDigit_of_mem_toDigits (by decide) (by decide) hc

/-- The number that a spelling in digits was made from. -/
theorem natural?_toDigits (n : Nat) : natural? (Nat.toDigits 10 n) = some n := by
  have hall : (Nat.toDigits 10 n).all Char.isDigit = true := List.all_eq_true.2 (all_isDigit_toDigits n)
  rw [natural?, if_pos ⟨Nat.toDigits_ne_nil, hall⟩]
  exact congrArg some (digitsValue_toDigits n)

/-- Only zero is spelt with a zero at its start. -/
theorem eq_zero_of_head? {n : Nat} (h : (Nat.toDigits 10 n).head? = some '0') : n = 0 := by
  induction n using Nat.strongRecOn with
  | ind n ih =>
    rw [Nat.toDigits_eq_if (by decide)] at h
    split at h
    · simpa using h
    · next hge =>
      rw [List.head?_append, List.head?_eq_some_head Nat.toDigits_ne_nil, Option.some_or,
        ← List.head?_eq_some_head] at h
      have := ih (n / 10) (by omega) h
      omega

theorem digits_toDigits (n : Nat) {rest : List Char} (h : Apart rest) (onEnd : Fault) :
    digits onEnd (Nat.toDigits 10 n ++ rest) = .ok (Nat.toDigits 10 n, rest) := by
  have hall := all_isDigit_toDigits n
  have hrest : rest.takeWhile Char.isDigit = [] ∧ rest.dropWhile Char.isDigit = rest := by
    cases rest with
    | nil => exact ⟨rfl, rfl⟩
    | cons c rest =>
      have hc : c.isDigit = false := (h c rfl).1
      simp [hc]
  have hspan : (Nat.toDigits 10 n ++ rest).takeWhile Char.isDigit = Nat.toDigits 10 n ∧
      (Nat.toDigits 10 n ++ rest).dropWhile Char.isDigit = rest := by
    rw [List.takeWhile_append_of_pos hall, List.dropWhile_append_of_pos hall, hrest.1, hrest.2,
      List.append_nil]
    exact ⟨rfl, rfl⟩
  cases hd : Nat.toDigits 10 n with
  | nil => exact absurd hd Nat.toDigits_ne_nil
  | cons d ds =>
    have hdigit : d.isDigit = true := hall d (by rw [hd]; exact List.mem_cons_self)
    rw [hd] at hspan
    rw [List.cons_append] at hspan ⊢
    rw [digits, if_pos hdigit, hspan.1, hspan.2]

/-- Digits alone, with nothing that goes on with them, are a number. -/
theorem decimal_toDigits (n : Nat) {rest : List Char} (h : Apart rest) (onEnd : Fault) :
    decimal onEnd (Nat.toDigits 10 n ++ rest) = .ok (⟨n, 0, Nat.toDigits 10 n⟩, rest) := by
  have hzero : ¬ ((Nat.toDigits 10 n).length > 1 ∧ (Nat.toDigits 10 n).head? = some '0') := by
    rintro ⟨hlen, hhead⟩
    rw [eq_zero_of_head? hhead, Nat.toDigits_zero] at hlen
    exact absurd hlen (by decide)
  have hfraction : fraction onEnd rest = .ok ([], rest) := by
    unfold fraction
    split
    · exact absurd rfl (h '.' rfl).2.1
    · rfl
  have hexponent : exponentPart onEnd rest = .ok (none, rest) := by
    cases rest with
    | nil => rfl
    | cons c rest =>
      have hc := h c rfl
      unfold exponentPart
      exact if_neg (not_or.2 hc.2.2)
  rw [decimal, digits_toDigits n h, ok_bind]
  dsimp only
  rw [if_neg hzero]
  simp only [hfraction, hexponent, ok_bind, List.append_nil, digitsValue_toDigits,
    List.length_nil, if_true]
  rfl

theorem size_le_floatLimit : UInt32.size ≤ floatLimit := by decide +kernel

/-- **A natural number of 32 bits is read back**, if nothing follows that goes on with it. -/
theorem number_toDigits {n : Nat} (hn : n < UInt32.size) {rest : List Char} (h : Apart rest) :
    number (Nat.toDigits 10 n ++ rest) = .ok (Nat.toDigits 10 n, rest) := by
  have hlarge : (Decimal.mk n 0 (Nat.toDigits 10 n)).tooLarge = false := by
    have hlimit := size_le_floatLimit
    unfold Decimal.tooLarge
    dsimp only
    split
    · rfl
    · rw [if_neg (show ¬ (308 : Int) < 0 by decide)]
      exact decide_eq_false (show ¬ floatLimit ≤ n * 1 by omega)
  have hsign : ∀ cs, Nat.toDigits 10 n ++ rest ≠ '-' :: cs := by
    intro cs hcs
    cases hd : Nat.toDigits 10 n with
    | nil => exact Nat.toDigits_ne_nil hd
    | cons d ds =>
      have hdigit : d.isDigit = true := all_isDigit_toDigits n d (by rw [hd]; exact List.mem_cons_self)
      rw [hd] at hcs
      cases hcs
      exact absurd hdigit (by decide)
  unfold number
  split
  · next cs hcs => exact absurd hcs (hsign _)
  · rw [decimal_toDigits n h, ok_bind]
    simp only [hlarge]
    rfl

end GraphLexer.Json
