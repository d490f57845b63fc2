/-
Control characters in a text.

A control character other than a blank may stand nowhere in a JSON text. No reader passes over one
(`Keeps`): a reader that comes to a value leaves it in what is left. So a text with a control character has
no value with nothing but blanks after it.
-/
import GraphLexer.Json.Skip
import GraphLexer.Proofs.Wire

namespace GraphLexer

namespace Json

/-- A control character that is no blank. -/
def IsControl (c : Char) : Prop :=
  c.toNat < 0x20 ∧ isBlank c = false

/-- A reader that comes to a value does not pass over a character. -/
def Keeps {α : Type} (c : Char) (read : Reader α) : Prop :=
  ∀ cs a rest, read cs = .ok (a, rest) → c ∈ cs → c ∈ rest

variable {c : Char}

section
variable {α γ : Type} {read : Reader α} {cs : List Char} {r : γ}

/-- What is read after a reader still has the character before it. -/
theorem Keeps.bind (hread : Keeps c read) {next : α × List Char → Except Fault γ}
    (h : (read cs >>= next) = .ok r) (hmem : c ∈ cs) :
    ∃ a rest, next (a, rest) = .ok r ∧ c ∈ rest := by
  obtain ⟨⟨a, rest⟩, ha, hnext⟩ := bind_eq_ok.1 h
  exact ⟨a, rest, hnext, hread _ _ _ ha hmem⟩

theorem Keeps.map (hread : Keeps c read) {f : α × List Char → γ} (h : (read cs).map f = .ok r)
    (hmem : c ∈ cs) : ∃ a rest, f (a, rest) = r ∧ c ∈ rest := by
  obtain ⟨⟨a, rest⟩, ha, hf⟩ := map_eq_ok.1 h
  exact ⟨a, rest, hf, hread _ _ _ ha hmem⟩

end

theorem mem_dropWhile {p : Char → Bool} (hp : p c = false) {cs : List Char} (h : c ∈ cs) :
    c ∈ cs.dropWhile p := by
  induction cs with
  | nil => cases h
  | cons d cs ih =>
    rw [List.dropWhile_cons]
    split
    · next hd =>
      refine ih ((List.mem_cons.1 h).resolve_left ?_)
      rintro rfl
      rw [hp] at hd
      cases hd
    · exact h

variable (hc : IsControl c)
include hc

/-- A control character does not stand where another character is read. -/
theorem IsControl.tail {d : Char} {cs : List Char} (h : c ∈ d :: cs) (hd : 0x20 ≤ d.toNat) : c ∈ cs := by
  refine (List.mem_cons.1 h).resolve_left ?_
  rintro rfl
  exact absurd hc.1 (Nat.not_lt.2 hd)

theorem IsControl.skipBlank {cs : List Char} (h : c ∈ cs) : c ∈ skipBlank cs :=
  mem_dropWhile hc.2 h

/-! ## Words and numbers -/

theorem keeps_word : ∀ es : List Char, es.all (0x20 ≤ ·.toNat) → Keeps c (word es)
  | [], _, _, _, _, h, hmem => by cases h; exact hmem
  | _ :: _, _, [], _, _, h, _ => by cases h
  | e :: es, hes, d :: cs, a, rest, h, hmem => by
    obtain ⟨he, hes⟩ := Bool.and_eq_true_iff.1 (List.all_cons ▸ hes)
    rw [word] at h
    split at h
    · next hd => exact keeps_word es hes cs a rest h (hc.tail hmem (hd ▸ of_decide_eq_true he))
    · cases h

theorem not_isDigit : c.isDigit = false := by
  have := hc.1
  simp only [Char.isDigit, Bool.and_eq_false_iff, decide_eq_false_iff_not]
  left
  intro hle
  have : '0'.toNat ≤ c.toNat := hle
  have : '0'.toNat = 48 := rfl
  omega

theorem keeps_digits (onEnd : Fault) : Keeps c (digits onEnd) := by
  intro cs ds rest h hmem
  unfold digits at h
  split at h
  · cases h
  · split at h
    · cases h
      exact mem_dropWhile (not_isDigit hc) hmem
    · cases h

theorem keeps_fraction (onEnd : Fault) : Keeps c (fraction onEnd) := by
  intro cs ds rest h hmem
  unfold fraction at h
  split at h
  · exact keeps_digits hc onEnd _ _ _ h (hc.tail hmem (by decide))
  · cases h
    exact hmem

theorem keeps_exponentPart (onEnd : Fault) : Keeps c (exponentPart onEnd) := by
  intro cs e rest h hmem
  unfold exponentPart at h
  split at h
  · cases hmem
  · next d rest' =>
    split at h
    · next hd =>
      have hmem' : c ∈ rest' := hc.tail hmem (by rcases hd with rfl | rfl <;> decide)
      split at h
      · next s rest'' =>
        split at h
        · next hs =>
          obtain ⟨ds, left, heq, hleft⟩ :=
            (keeps_digits hc onEnd).map h (hc.tail hmem' (by rcases hs with rfl | rfl <;> decide))
          cases heq
          exact hleft
        · obtain ⟨ds, left, heq, hleft⟩ := (keeps_digits hc onEnd).map h hmem'
          cases heq
          exact hleft
      · cases h
    · cases h
      exact hmem

theorem keeps_decimal (onEnd : Fault) : Keeps c (decimal onEnd) := by
  intro cs d rest h hmem
  unfold decimal at h
  obtain ⟨whole, rest₁, h, hmem₁⟩ := (keeps_digits hc onEnd).bind h hmem
  dsimp only at h
  split at h
  · cases h
  obtain ⟨frac, rest₂, h, hmem₂⟩ := (keeps_fraction hc onEnd).bind h hmem₁
  obtain ⟨exp, rest₃, h, hmem₃⟩ := (keeps_exponentPart hc onEnd).bind h hmem₂
  dsimp only at h
  split at h <;> cases h <;> exact hmem₃

theorem keeps_number : Keeps c number := by
  intro cs s rest h hmem
  unfold number at h
  split at h
  · obtain ⟨d, rest₁, h, hmem₁⟩ := (keeps_decimal hc _).bind h (hc.tail hmem (by decide))
    dsimp only at h
    split at h
    · cases h
    · cases h; exact hmem₁
  · obtain ⟨d, rest₁, h, hmem₁⟩ := (keeps_decimal hc _).bind h hmem
    dsimp only at h
    split at h
    · cases h
    · cases h; exact hmem₁

/-! ## Strings -/

omit hc in
theorem le_of_hexValue? {d : Char} {n : Nat} (h : hexValue? d = some n) : 0x20 ≤ d.toNat := by
  unfold hexValue? at h
  split at h
  · next hd =>
    rw [Char.isDigit, Bool.and_eq_true, decide_eq_true_eq] at hd
    exact Nat.le_trans (by decide) (show '0'.toNat ≤ d.toNat from hd.1)
  split at h
  · next hd => exact Nat.le_trans (by decide) (show 'a'.toNat ≤ d.toNat from hd.1)
  split at h
  · next hd => exact Nat.le_trans (by decide) (show 'A'.toNat ≤ d.toNat from hd.1)
  · cases h

theorem keeps_hex4 : Keeps c hex4 := by
  intro cs n rest h hmem
  unfold hex4 at h
  split at h
  · cases h
  split at h
  · split at h
    · next h₁ h₂ h₃ h₄ =>
      cases h
      exact hc.tail (hc.tail (hc.tail (hc.tail hmem (le_of_hexValue? h₁)) (le_of_hexValue? h₂))
        (le_of_hexValue? h₃)) (le_of_hexValue? h₄)
    · cases h
  · cases h

theorem keeps_escapedUnits : Keeps c escapedUnits := by
  intro cs e rest h hmem
  unfold escapedUnits at h
  obtain ⟨n, rest₁, h, hmem₁⟩ := (keeps_hex4 hc).bind h hmem
  dsimp only at h
  split at h
  · cases h; exact hmem₁
  split at h
  · cases h
  split at h
  · cases h
  · cases h
  · obtain ⟨m, rest₂, h, hmem₂⟩ :=
      (keeps_hex4 hc).bind h (hc.tail (hc.tail hmem₁ (by decide)) (by decide))
    dsimp only at h
    split at h
    · exact (Prod.mk.inj (Except.ok.inj h)).2 ▸ hmem₂
    · cases h
  · cases h

omit hc in
theorem le_of_escapeLetter? {d e : Char} (h : escapeLetter? d = some e) : 0x20 ≤ d.toNat := by
  unfold escapeLetter? at h
  split at h
  case h_9 => cases h
  all_goals decide

theorem keeps_escaped : Keeps c escaped := by
  intro cs e rest h hmem
  unfold escaped at h
  split at h
  · cases h
  · exact keeps_escapedUnits hc _ _ _ h (hc.tail hmem (by decide))
  · split at h
    · next he =>
      cases h
      exact hc.tail hmem (le_of_escapeLetter? he)
    · cases h

theorem keeps_charsUpTo : ∀ fuel : Nat, Keeps c (charsUpTo fuel)
  | 0, _, _, _, h, _ => by cases h
  | _ + 1, [], _, _, h, _ => by cases h
  | fuel + 1, d :: cs, s, rest, h, hmem => by
    rw [charsUpTo] at h
    split at h
    · next hd =>
      cases h
      exact hc.tail hmem (by rw [hd]; decide)
    split at h
    · next hd =>
      obtain ⟨e, rest₁, h, hmem₁⟩ := (keeps_escaped hc).bind h (hc.tail hmem (by rw [hd]; decide))
      obtain ⟨es, rest₂, h, hmem₂⟩ := (keeps_charsUpTo fuel).bind h hmem₁
      cases h
      exact hmem₂
    split at h
    · cases h
    · next hd =>
      obtain ⟨es, rest₁, h, hmem₁⟩ := (keeps_charsUpTo fuel).bind h (hc.tail hmem (Nat.not_lt.1 hd))
      cases h
      exact hmem₁

theorem keeps_stringBody : Keeps c stringBody := by
  intro cs s rest h hmem
  obtain ⟨s', rest₁, h, hmem₁⟩ := (keeps_charsUpTo hc _).bind h hmem
  cases h
  exact hmem₁

/-! ## Arrays and objects -/

section
variable {α σ : Type}

theorem keeps_itemsUpTo {item : Reader α} (hitem : Keeps c item) :
    ∀ (fuel : Nat) (first : Bool), Keeps c (itemsUpTo item fuel first)
  | 0, _, _, _, _, h, _ => by cases h
  | fuel + 1, first, cs, as, rest, h, hmem => by
    have hitems : ∀ {ds}, c ∈ ds → (item ds >>= fun p =>
        itemsUpTo item fuel false p.2 >>= fun q => .ok (p.1 :: q.1, q.2)) = .ok (as, rest) →
          c ∈ rest := by
      intro ds hds h
      obtain ⟨a, rest₁, h, hmem₁⟩ := hitem.bind h hds
      obtain ⟨as', rest₂, h, hmem₂⟩ := (keeps_itemsUpTo hitem fuel false).bind h hmem₁
      cases h
      exact hmem₂
    have hmem₁ := hc.skipBlank hmem
    rw [itemsUpTo] at h
    split at h
    · cases h
    next d ds hds =>
    rw [hds] at hmem₁
    split at h
    · next hd =>
      cases h
      exact hc.tail hmem₁ (by rw [hd]; decide)
    split at h
    · exact hitems hmem₁ h
    split at h
    · next hd =>
      have hmem₂ := hc.skipBlank (hc.tail hmem₁ (by rw [hd]; decide))
      split at h
      · cases h
      next hds' =>
      rw [hds'] at hmem₂
      split at h
      · cases h
      · exact hitems hmem₂ h
    · cases h

theorem keeps_items {item : Reader α} (hitem : Keeps c item) : Keeps c (items item) :=
  fun cs => keeps_itemsUpTo hc hitem (cs.length + 1) true cs

theorem keeps_colon : Keeps c colon := by
  intro cs a rest h hmem
  have hmem₁ := hc.skipBlank hmem
  unfold colon at h
  split at h
  · cases h
  next d ds hds =>
  rw [hds] at hmem₁
  split at h
  · next hd =>
    cases h
    exact hc.tail hmem₁ (by rw [hd]; decide)
  · cases h

theorem keeps_entriesUpTo {entry : σ → String → Reader σ} (hentry : ∀ s key, Keeps c (entry s key)) :
    ∀ (fuel : Nat) (first : Bool) (s : σ), Keeps c (entriesUpTo entry fuel first s)
  | 0, _, _, _, _, _, h, _ => by cases h
  | fuel + 1, first, s, cs, s', rest, h, hmem => by
    have hmem₁ := hc.skipBlank hmem
    rw [entriesUpTo] at h
    split at h
    · cases h
    next d ds hds =>
    rw [hds] at hmem₁
    split at h
    · next hd =>
      cases h
      exact hc.tail hmem₁ (by rw [hd]; decide)
    split at h
    · next hd =>
      have hmem₂ : c ∈ if first then d :: ds else skipBlank ds := by
        split
        · exact hmem₁
        · next hfirst =>
          exact hc.skipBlank (hc.tail hmem₁ (by rw [hd.resolve_left hfirst]; decide))
      split at h
      · cases h
      next hqs =>
      rw [hqs] at hmem₂
      split at h
      · next hq =>
        obtain ⟨key, rest₁, h, hmem₃⟩ :=
          (keeps_stringBody hc).bind h (hc.tail hmem₂ (by rw [hq]; decide))
        obtain ⟨s₁, rest₂, h, hmem₄⟩ := (hentry s key).bind h hmem₃
        exact keeps_entriesUpTo hentry fuel false s₁ _ _ _ h hmem₄
      · cases h
    · cases h

theorem keeps_entries {entry : σ → String → Reader σ} (hentry : ∀ s key, Keeps c (entry s key)) (s : σ) :
    Keeps c (entries entry s) :=
  fun cs => keeps_entriesUpTo hc hentry (cs.length + 1) true s cs

end

/-! ## Values -/

omit hc in
theorem Keeps.of_map {α β : Type} {read : Reader α} (h : Keeps c read)
    {f : α × List Char → β × List Char} {cs rest : List Char} {b : β}
    (hb : (read cs).map f = .ok (b, rest)) (hmem : c ∈ cs) (hf : ∀ r, (f r).2 = r.2) : c ∈ rest := by
  obtain ⟨a, left, heq, hleft⟩ := h.map hb hmem
  have hrest : rest = left := (congrArg Prod.snd heq).symm.trans (hf _)
  exact hrest ▸ hleft

omit hc in
theorem keeps_tooDeep {α : Type} : Keeps c (tooDeep : Reader α) :=
  fun _ _ _ h _ => by cases h

theorem keeps_scalar : Keeps c scalar := by
  intro cs v rest h hmem
  unfold scalar at h
  split at h
  · cases h
  next d ds =>
  split at h
  · next hd =>
    exact (keeps_word hc "ull".toList (by decide)).of_map h (hc.tail hmem (by rw [hd]; decide)) fun _ => rfl
  split at h
  · next hd =>
    exact (keeps_word hc "rue".toList (by decide)).of_map h (hc.tail hmem (by rw [hd]; decide)) fun _ => rfl
  split at h
  · next hd =>
    exact (keeps_word hc "alse".toList (by decide)).of_map h (hc.tail hmem (by rw [hd]; decide)) fun _ => rfl
  split at h
  · next hd =>
    exact (keeps_stringBody hc).of_map h (hc.tail hmem (by rw [hd]; decide)) fun _ => rfl
  split at h
  · exact (keeps_number hc).of_map h hmem fun _ => rfl
  · cases h

theorem keeps_valueWith {array : Reader (List Value)} {object : Reader (List (String × Value))}
    (harray : Keeps c array) (hobject : Keeps c object) : Keeps c (valueWith array object) := by
  intro cs v rest h hmem
  have hmem₁ := hc.skipBlank hmem
  unfold valueWith at h
  split at h
  · cases h
  next d ds hds =>
  rw [hds] at hmem₁
  split at h
  · next hd => exact harray.of_map h (hc.tail hmem₁ (by rw [hd]; decide)) fun _ => rfl
  split at h
  · next hd => exact hobject.of_map h (hc.tail hmem₁ (by rw [hd]; decide)) fun _ => rfl
  · exact keeps_scalar hc _ _ _ h hmem₁

theorem keeps_member {value : Reader Value} (hvalue : Keeps c value) (before : List (String × Value))
    (key : String) : Keeps c (member value before key) := by
  intro cs ms rest h hmem
  obtain ⟨_, rest₁, h, hmem₁⟩ := (keeps_colon hc).bind h hmem
  obtain ⟨v, rest₂, h, hmem₂⟩ := hvalue.bind h hmem₁
  cases h
  exact hmem₂

theorem keeps_value : ∀ levels : Nat, Keeps c (value levels)
  | 0 => keeps_valueWith hc keeps_tooDeep keeps_tooDeep
  | levels + 1 => keeps_valueWith hc (keeps_items hc (keeps_value levels))
      (keeps_entries hc (fun before key => keeps_member hc (keeps_value levels) before key) [])

omit hc in
theorem refuse_ne_ok {α : Type} {cs : List Char} {a : α} : refuse cs ≠ .ok a := by
  unfold refuse
  split
  · exact nofun
  split
  · exact nofun
  split <;> exact nofun

theorem keeps_stringValue : Keeps c stringValue := by
  intro cs s rest h hmem
  have hmem₁ := hc.skipBlank hmem
  unfold stringValue at h
  split at h
  · next hds =>
    rw [hds] at hmem₁
    exact keeps_stringBody hc _ _ _ h (hc.tail hmem₁ (by decide))
  · exact absurd h refuse_ne_ok

theorem keeps_boolValue : Keeps c boolValue := by
  intro cs b rest h hmem
  have hmem₁ := hc.skipBlank hmem
  unfold boolValue at h
  split at h
  · next hds =>
    rw [hds] at hmem₁
    exact (keeps_word hc "rue".toList (by decide)).of_map h (hc.tail hmem₁ (by decide)) fun _ => rfl
  · next hds =>
    rw [hds] at hmem₁
    exact (keeps_word hc "alse".toList (by decide)).of_map h (hc.tail hmem₁ (by decide)) fun _ => rfl
  · exact absurd h refuse_ne_ok

section
variable {α : Type} {inside : Reader α} (hinside : Keeps c inside)
include hinside

theorem keeps_arrayValue : Keeps c (arrayValue inside) := by
  intro cs a rest h hmem
  have hmem₁ := hc.skipBlank hmem
  unfold arrayValue at h
  split at h
  · next hds =>
    rw [hds] at hmem₁
    exact hinside _ _ _ h (hc.tail hmem₁ (by decide))
  · exact absurd h refuse_ne_ok

theorem keeps_objectValue : Keeps c (objectValue inside) := by
  intro cs a rest h hmem
  have hmem₁ := hc.skipBlank hmem
  unfold objectValue at h
  split at h
  · next hds =>
    rw [hds] at hmem₁
    exact hinside _ _ _ h (hc.tail hmem₁ (by decide))
  · exact absurd h refuse_ne_ok

end

/-! ## Values that are passed over -/

theorem mem_of_skipStringUpTo : ∀ {fuel : Nat} {cs rest : List Char},
    skipStringUpTo fuel cs = .ok rest → c ∈ cs → c ∈ rest
  | 0, _, _, h, _ => by cases h
  | _ + 1, [], _, h, _ => by cases h
  | fuel + 1, d :: cs, rest, h, hmem => by
    rw [skipStringUpTo.eq_def] at h
    dsimp only at h
    split at h
    · next hd =>
      cases h
      exact hc.tail hmem (by rw [hd]; decide)
    split at h
    · next hd =>
      have hmem₁ := hc.tail hmem (by rw [hd]; decide)
      split at h
      · cases h
      split at h
      · next he =>
        have hmem₂ := hc.tail hmem₁ (by rw [he]; decide)
        split at h
        · next hhex => exact mem_of_skipStringUpTo h (keeps_hex4 hc _ _ _ hhex hmem₂)
        · cases h
      split at h
      · next he =>
        obtain ⟨e', he'⟩ := Option.isSome_iff_exists.1 he
        exact mem_of_skipStringUpTo h (hc.tail hmem₁ (le_of_escapeLetter? he'))
      · cases h
    split at h
    · cases h
    · next hd => exact mem_of_skipStringUpTo h (hc.tail hmem (Nat.not_lt.1 hd))

theorem mem_of_skipScalar {cs rest : List Char} (h : skipScalar cs = .ok rest) (hmem : c ∈ cs) :
    c ∈ rest := by
  unfold skipScalar at h
  split at h
  · cases h
  next d ds =>
  have hword : ∀ {es : List Char}, es.all (0x20 ≤ ·.toNat) → 0x20 ≤ d.toNat →
      (word es ds).map (·.2) = .ok rest → c ∈ rest := by
    intro es hes hd h
    obtain ⟨_, left, rfl, hleft⟩ := (keeps_word hc es hes).map h (hc.tail hmem hd)
    exact hleft
  split at h
  · next hd => exact hword (by decide) (by rw [hd]; decide) h
  split at h
  · next hd => exact hword (by decide) (by rw [hd]; decide) h
  split at h
  · next hd => exact hword (by decide) (by rw [hd]; decide) h
  split at h
  · next hd => exact mem_of_skipStringUpTo hc h (hc.tail hmem (by rw [hd]; decide))
  split at h
  · next hd =>
    obtain ⟨_, left, rfl, hleft⟩ := (keeps_decimal hc _).map h (hc.tail hmem (by rw [hd]; decide))
    exact hleft
  split at h
  · obtain ⟨_, left, rfl, hleft⟩ := (keeps_decimal hc _).map h hmem
    exact hleft
  · cases h

omit hc in
theorem le_closing (frame : Frame) : 0x20 ≤ frame.closing.toNat := by
  cases frame <;> decide

theorem mem_of_skipUpTo : ∀ {fuel : Nat} {expect : Expect} {open_ : List Frame} {cs rest : List Char},
    skipUpTo fuel expect open_ cs = .ok rest → c ∈ cs → c ∈ rest
  | 0, _, _, _, _, h, _ => by cases h
  | fuel + 1, expect, open_, cs, rest, h, hmem => by
    have hmem₁ := hc.skipBlank hmem
    rw [skipUpTo.eq_def] at h
    dsimp only at h
    split at h
    · split at h
      · cases h
      next hds =>
      rw [hds] at hmem₁
      split at h
      · next hd => exact mem_of_skipUpTo h (hc.tail hmem₁ (by rw [hd]; decide))
      split at h
      · next hd => exact mem_of_skipUpTo h (hc.tail hmem₁ (by rw [hd]; decide))
      · obtain ⟨rest₁, h₁, h⟩ := bind_eq_ok.1 h
        exact mem_of_skipUpTo h (mem_of_skipScalar hc h₁ hmem₁)
    · split at h
      · cases h
      next hds =>
      rw [hds] at hmem₁
      split at h
      · next hd =>
        obtain ⟨rest₁, h₁, h⟩ := bind_eq_ok.1 h
        have hmem₂ := mem_of_skipStringUpTo hc h₁ (hc.tail hmem₁ (by rw [hd]; decide))
        obtain ⟨_, rest₂, h, hmem₃⟩ := (keeps_colon hc).bind h hmem₂
        exact mem_of_skipUpTo h hmem₃
      · cases h
    · cases h
      exact hmem
    · split at h
      · cases h
      next hds =>
      rw [hds] at hmem₁
      split at h
      · next hd => exact mem_of_skipUpTo h (hc.tail hmem₁ (hd ▸ le_closing _))
      · exact mem_of_skipUpTo h hmem₁
    · split at h
      · cases h
      next hds =>
      rw [hds] at hmem₁
      split at h
      · next hd => exact mem_of_skipUpTo h (hc.tail hmem₁ (by rw [hd]; decide))
      split at h
      · next hd => exact mem_of_skipUpTo h (hc.tail hmem₁ (hd ▸ le_closing _))
      · cases h

end Json

end GraphLexer
