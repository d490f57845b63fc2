/-
What readers make of a text whose end has been cut off.

A reader spends such a text (`Spends`): it finds that the text is cut short, or takes all that is left as
a result of its own. The second is so for numbers only, as the first digits of a number are a number. All
other values end with a character that says so, and the loops of arrays and objects find that it is
missing (`items_truncated`, `entries_truncated`), whatever reads their items and members, as long as these
are taken when they are whole and spent when they are not.
-/
import Mathlib.Data.List.TakeWhile
import GraphLexer.Proofs.Json.Value

namespace GraphLexer

/-! ## Beginnings -/

section
variable {α : Type} {cut as bs : List α} {a : α}

/-- A list begins another one, and ends before it does. -/
def Truncates (cut as : List α) : Prop :=
  cut <+: as ∧ cut ≠ as

theorem not_truncates_nil : ¬ Truncates cut [] :=
  fun ⟨h, hne⟩ => hne (List.prefix_nil.1 h)

theorem truncates_cons : Truncates cut (a :: as) ↔
    cut = [] ∨ ∃ cut', cut = a :: cut' ∧ Truncates cut' as := by
  cases cut with
  | nil => simp [Truncates]
  | cons c cut =>
    simp only [Truncates, List.cons_prefix_cons, ne_eq, List.cons.injEq, reduceCtorEq, false_or]
    constructor
    · rintro ⟨⟨rfl, h⟩, hne⟩
      exact ⟨cut, ⟨rfl, rfl⟩, h, fun he => hne ⟨rfl, he⟩⟩
    · rintro ⟨_, ⟨rfl, rfl⟩, h, hne⟩
      exact ⟨⟨rfl, h⟩, fun he => hne he.2⟩

theorem truncates_singleton : Truncates cut [a] ↔ cut = [] := by
  simp [truncates_cons, not_truncates_nil]

theorem Truncates.append (h : Truncates cut (as ++ bs)) :
    Truncates cut as ∨ ∃ cut', cut = as ++ cut' ∧ Truncates cut' bs := by
  obtain ⟨hbegins, hne⟩ := h
  by_cases hle : as <+: cut
  · obtain ⟨cut', rfl⟩ := hle
    exact Or.inr ⟨cut', rfl, (List.prefix_append_right_inj as).1 hbegins, fun he => hne (he ▸ rfl)⟩
  · refine Or.inl ⟨?_, fun he => hle (he ▸ List.prefix_rfl)⟩
    exact (List.prefix_or_prefix_of_prefix hbegins (List.prefix_append as bs)).resolve_right hle

theorem Truncates.length_lt (h : Truncates cut as) : cut.length < as.length := by
  have := h.1.length_le
  have : cut.length ≠ as.length := fun he => h.2 (h.1.eq_of_length he)
  omega

end

namespace Json

/-! ## Strings -/

theorem byteLength_hexDigit : ∀ m < 16, Text.byteLength ['0', '0', hexDigit m] = 3 := by decide

/-- An escape by units is cut short if a digit is missing. -/
theorem escaped_truncated {cut : List Char} {m n : Nat} (hm : m < 16)
    (h : Truncates cut ['u', '0', '0', hexDigit m, hexDigit n]) : escaped cut = .error .cutShort := by
  simp only [truncates_cons, not_truncates_nil, and_false, exists_false, or_false] at h
  rcases h with rfl | ⟨_, rfl, rfl | ⟨_, rfl, rfl | ⟨_, rfl, rfl | ⟨_, rfl, rfl⟩⟩⟩⟩
  · rfl
  · rfl
  · rfl
  · rfl
  · rw [escaped, escapedUnits, hex4.eq_def, List.take_of_length_le (by simp), byteLength_hexDigit m hm,
      if_pos (by decide), error_bind]

/-- The beginning of what is written of a character is nothing, or an escape that is cut short. -/
theorem truncates_quoteChar {c : Char} {cut : List Char} (h : Truncates cut (quoteChar c)) :
    cut = [] ∨ ∃ cut', cut = '\\' :: cut' ∧ escaped cut' = .error .cutShort := by
  rcases quoteChar_cases c with ⟨hc, -⟩ | ⟨letter, hc, -⟩ | ⟨hcontrol, hc⟩
  all_goals
    rw [hc] at h
    rcases truncates_cons.1 h with rfl | ⟨cut', rfl, h'⟩
    · exact Or.inl rfl
  · exact absurd h' not_truncates_nil
  · obtain rfl := truncates_singleton.1 h'
    exact Or.inr ⟨[], rfl, rfl⟩
  · exact Or.inr ⟨cut', rfl, escaped_truncated (by omega) h'⟩

theorem charsUpTo_truncated : ∀ {cs cut : List Char} {fuel : Nat}, cut.length < fuel →
    Truncates cut (cs.flatMap quoteChar ++ ['"']) → charsUpTo fuel cut = .error .cutShort
  | [], cut, fuel + 1, _, h => by
    obtain rfl := truncates_singleton.1 h
    rfl
  | c :: cs, cut, fuel + 1, hfuel, h => by
    rw [List.flatMap_cons, List.append_assoc] at h
    rcases h.append with hc | ⟨cut, rfl, hcs⟩
    · rcases truncates_quoteChar hc with rfl | ⟨cut, rfl, he⟩
      · rfl
      · rw [charsUpTo, if_neg (by decide), if_pos rfl, he, error_bind]
    · have := length_quoteChar_pos c
      rw [List.length_append] at hfuel
      rw [charsUpTo_quoteChar, charsUpTo_truncated (by omega) hcs]
      rfl

/-- **A string that has lost its end is cut short.** -/
theorem stringBody_truncated {s : String} {cut : List Char}
    (h : Truncates cut (s.toList.flatMap quoteChar ++ ['"'])) :
    stringBody cut = .error .cutShort := by
  rw [stringBody, charsUpTo_truncated (Nat.lt_succ_self _) h, error_bind]

/-! ## Readers -/

section
variable {α β : Type} {reader : Reader α} {cut text later : List Char}

/-- A reader finds that a text is cut short, or takes all of it. -/
def Spent (r : Except Fault (α × List Char)) : Prop :=
  r = .error .cutShort ∨ ∃ a, r = .ok (a, [])

/-- A reader spends all beginnings of a text. -/
def Spends (reader : Reader α) (text : List Char) : Prop :=
  ∀ cut, Truncates cut text → Spent (reader cut)

theorem Spent.map {r : Except Fault (α × List Char)} (h : Spent r) (f : α → β) :
    Spent (r.map fun (a, left) => (f a, left)) := by
  rcases h with rfl | ⟨a, rfl⟩
  · exact Or.inl rfl
  · exact Or.inr ⟨f a, rfl⟩

theorem Takes.ok {levels depth : Nat} {a : α} (h : Takes reader levels depth text a)
    (hdepth : depth ≤ levels) {rest : List Char} (hrest : Apart rest) :
    reader (text ++ rest) = .ok (a, rest) :=
  (h rest hrest).trans (if_pos hdepth)

theorem Apart.truncated (hlater : Apart later) (h : Truncates cut later) : Apart cut := by
  cases cut with
  | nil => exact fun _ hc => by cases hc
  | cons c cut =>
    obtain ⟨rest, rfl⟩ := h.1
    exact hlater

/-- A reader and what follows it find that a text is cut short, if what follows does so at the end of
    the text and on all beginnings of what it reads. -/
theorem bind_truncated {levels depth : Nat} {a : α} {k : α × List Char → Except Fault (β × List Char)}
    (htakes : Takes reader levels depth text a) (hdepth : depth ≤ levels) (hspends : Spends reader text)
    (hlater : Apart later) (hend : ∀ a, k (a, []) = .error .cutShort)
    (hk : ∀ rest, cut = text ++ rest → Truncates rest later → k (a, rest) = .error .cutShort)
    (h : Truncates cut (text ++ later)) : (reader cut >>= k) = .error .cutShort := by
  rcases h.append with htext | ⟨rest, rfl, hrest⟩
  · rcases hspends cut htext with he | ⟨a, he⟩
    · rw [he, error_bind]
    · rw [he, ok_bind, hend]
  · rw [htakes.ok hdepth (hlater.truncated hrest), ok_bind]
    exact hk rest rfl hrest

end

/-- A text that begins with a line break is used up by blanks, or goes on behind the line break. -/
theorem skipBlank_truncated {depth : Nat} {c : Char} {cut text : List Char} (hc : isBlank c = false)
    (h : Truncates cut (lineBreak depth ++ c :: text)) : skipBlank cut = [] ∨
      ∃ rest, cut = lineBreak depth ++ c :: rest ∧ skipBlank cut = c :: rest ∧ Truncates rest text := by
  rcases h.append with hbreak | ⟨left, rfl, hleft⟩
  · exact Or.inl (List.dropWhile_eq_nil_iff.2 fun c hc =>
      isBlank_of_mem_lineBreak c (hbreak.1.subset hc))
  · rw [skipBlank_lineBreak]
    rcases truncates_cons.1 hleft with rfl | ⟨rest, rfl, hrest⟩
    · exact Or.inl rfl
    · exact Or.inr ⟨rest, rfl, List.dropWhile_cons_of_neg (by simp [hc]), hrest⟩

/-! ## Arrays and objects -/

section
variable {α : Type} {item : Reader α} {levels depth : Nat}

theorem item_truncated {v : Value} {vs : List Value} {a : α} (hstarts : Starts (pretty (depth + 1) v))
    (htakes : Takes item levels v.depth (pretty (depth + 1) v) a) (hdepth : v.depth ≤ levels)
    (hspends : Spends item (pretty (depth + 1) v)) {fuel : Nat} {cut : List Char}
    (hfuel : cut.length ≤ fuel) (hlater : ∀ {rest : List Char}, rest.length < fuel →
      Truncates rest (prettyItems depth vs) → itemsUpTo item fuel false rest = .error .cutShort)
    (h : Truncates cut (itemsText depth (v :: vs))) : skipBlank cut = [] ∨
      ∃ c rest, skipBlank cut = c :: rest ∧ c ≠ ']' ∧
        (item (c :: rest) >>= fun (a, rest) => do
          let (as, rest) ← itemsUpTo item fuel false rest
          .ok (a :: as, rest)) = .error .cutShort := by
  obtain ⟨c, cs, htext, hblank, hc⟩ := hstarts
  rw [itemsText, List.append_assoc, htext] at h
  rcases skipBlank_truncated hblank h with hskip | ⟨rest, rfl, hskip, hrest⟩
  · exact Or.inl hskip
  rw [List.length_append, List.length_cons] at hfuel
  obtain ⟨fuel, rfl⟩ : ∃ n, fuel = n + 1 := ⟨fuel - 1, by omega⟩
  have hitem : Truncates (c :: rest) (pretty (depth + 1) v ++ prettyItems depth vs) :=
    htext ▸ truncates_cons.2 (Or.inr ⟨rest, rfl, hrest⟩)
  refine Or.inr ⟨c, rest, hskip, hc, bind_truncated htakes hdepth hspends
    (List.append_nil (prettyItems depth vs) ▸ apart_prettyItems depth vs []) (fun _ => rfl) ?_ hitem⟩
  intro left he hleft
  have hlen := congrArg List.length he
  simp only [htext, List.length_cons, List.length_append] at hlen
  dsimp only
  rw [hlater (by omega) hleft, error_bind]

/-- The items after the first one, by induction on them. -/
theorem itemsUpTo_truncated {vs : List Value} {as : List α}
    (h : TakesItems item levels (depth + 1) vs as) (hdepth : Value.depthOfItems vs ≤ levels)
    (hspends : ∀ v ∈ vs, Spends item (pretty (depth + 1) v)) : ∀ {fuel : Nat} {cut : List Char},
      cut.length < fuel → Truncates cut (prettyItems depth vs) →
        itemsUpTo item fuel false cut = .error .cutShort := by
  induction h with
  | nil =>
    intro fuel cut hfuel hcut
    obtain ⟨fuel, rfl⟩ := Nat.exists_eq_add_one_of_ne_zero (Nat.ne_zero_of_lt hfuel)
    rcases skipBlank_truncated (by decide) hcut with hskip | ⟨_, _, _, h⟩
    · rw [itemsUpTo, hskip]
    · exact absurd h not_truncates_nil
  | @cons v a vs as hstarts htakes _ ih =>
    intro fuel cut hfuel hcut
    obtain ⟨fuel, rfl⟩ := Nat.exists_eq_add_one_of_ne_zero (Nat.ne_zero_of_lt hfuel)
    rcases truncates_cons.1 hcut with rfl | ⟨cut, rfl, hitems⟩
    · rfl
    have hcomma : skipBlank (',' :: cut) = ',' :: cut := rfl
    rcases item_truncated hstarts htakes (Nat.le_trans (Nat.le_max_left _ _) hdepth)
      (hspends v List.mem_cons_self) (Nat.le_of_lt_succ (Nat.lt_of_succ_lt hfuel))
      (ih (Nat.le_trans (Nat.le_max_right _ _) hdepth) fun w hw =>
        hspends w (List.mem_cons_of_mem _ hw)) hitems with hskip | ⟨c, rest, hskip, hc, he⟩
    · simp only [itemsUpTo, hcomma, hskip, Char.reduceEq, if_false, Bool.false_eq_true, if_true]
    · simp only [itemsUpTo, hcomma, hskip, Char.reduceEq, if_neg hc, if_false, Bool.false_eq_true, if_true]
      exact he

/-- **An array that has lost its end is cut short**, whatever reads its items. -/
theorem items_truncated {vs : List Value} {as : List α} (h : TakesItems item levels (depth + 1) vs as)
    (hdepth : Value.depthOfItems vs ≤ levels) (hspends : ∀ v ∈ vs, Spends item (pretty (depth + 1) v))
    {cut : List Char} (hcut : Truncates cut (itemsText depth vs)) : items item cut = .error .cutShort := by
  cases h with
  | nil =>
    obtain rfl := truncates_singleton.1 hcut
    rfl
  | @cons v a vs as hstarts htakes hvs =>
    rcases item_truncated hstarts htakes (Nat.le_trans (Nat.le_max_left _ _) hdepth)
      (hspends v List.mem_cons_self) (Nat.le_refl _)
      (itemsUpTo_truncated hvs (Nat.le_trans (Nat.le_max_right _ _) hdepth) fun w hw =>
        hspends w (List.mem_cons_of_mem _ hw)) hcut with hskip | ⟨c, rest, hskip, hc, he⟩
    · rw [items, itemsUpTo, hskip]
    · simp only [items, itemsUpTo, hskip, if_neg hc, if_true]
      exact he

end

section
variable {σ : Type} {entry : σ → String → Reader σ} {levels depth : Nat}

/-- What follows the key of a member. -/
def memberText (depth : Nat) (v : Value) : List Char :=
  ':' :: ' ' :: pretty depth v

theorem membersText_cons (depth : Nat) (key : String) (v : Value) (ms : List (String × Value)) :
    membersText depth ((key, v) :: ms) = lineBreak (depth + 1) ++ '"' ::
      ((key.toList.flatMap quoteChar ++ ['"']) ++ (memberText (depth + 1) v ++ prettyMembers depth ms)) := by
  simp [membersText, memberText, quote]

theorem member_truncated {s s' : σ} {key : String} {v : Value} {ms : List (String × Value)}
    (htakes : Takes (entry s key) levels v.depth (memberText (depth + 1) v) s') (hdepth : v.depth ≤ levels)
    (hspends : Spends (entry s key) (memberText (depth + 1) v)) {fuel : Nat} {cut : List Char}
    (hfuel : cut.length ≤ fuel) (hlater : ∀ {rest : List Char}, rest.length < fuel →
      Truncates rest (prettyMembers depth ms) → entriesUpTo entry fuel false s' rest = .error .cutShort)
    (h : Truncates cut (membersText depth ((key, v) :: ms))) : skipBlank cut = [] ∨
      ∃ rest, skipBlank cut = '"' :: rest ∧
        (do let (key, rest) ← stringBody rest
            let (s, rest) ← entry s key rest
            entriesUpTo entry fuel false s rest) = .error .cutShort := by
  rw [membersText_cons] at h
  rcases skipBlank_truncated (by decide) h with hskip | ⟨rest, rfl, hskip, hrest⟩
  · exact Or.inl hskip
  refine Or.inr ⟨rest, hskip, ?_⟩
  rw [List.length_append, List.length_cons] at hfuel
  obtain ⟨fuel, rfl⟩ : ∃ n, fuel = n + 1 := ⟨fuel - 1, by omega⟩
  rcases hrest.append with hkey | ⟨rest, rfl, hvalue⟩
  · rw [stringBody_truncated hkey, error_bind]
  · rw [List.append_assoc, List.singleton_append, stringBody_quote, ok_bind]
    refine bind_truncated htakes hdepth hspends
      (List.append_nil (prettyMembers depth ms) ▸ apart_prettyMembers depth ms []) (fun _ => rfl) ?_ hvalue
    intro left he hleft
    have hlen := congrArg List.length he
    simp only [List.length_append] at hlen hfuel
    exact hlater (by omega) hleft

variable {s s' : σ} {ms : List (String × Value)} {cut : List Char}

/-- The members after the first one, by induction on them. -/
theorem entriesUpTo_truncated (h : TakesMembers entry levels (depth + 1) s ms s')
    (hdepth : Value.depthOfMembers ms ≤ levels) (hspends : ∀ m ∈ ms, ∀ s s',
      Takes (entry s m.1) levels m.2.depth (memberText (depth + 1) m.2) s' →
        Spends (entry s m.1) (memberText (depth + 1) m.2)) : ∀ {fuel : Nat} {cut : List Char},
      cut.length < fuel → Truncates cut (prettyMembers depth ms) →
        entriesUpTo entry fuel false s cut = .error .cutShort := by
  induction h with
  | nil =>
    intro fuel cut hfuel hcut
    obtain ⟨fuel, rfl⟩ := Nat.exists_eq_add_one_of_ne_zero (Nat.ne_zero_of_lt hfuel)
    rcases skipBlank_truncated (by decide) hcut with hskip | ⟨_, _, _, h⟩
    · rw [entriesUpTo, hskip]
    · exact absurd h not_truncates_nil
  | @cons s s₁ _ key v ms htakes _ ih =>
    intro fuel cut hfuel hcut
    obtain ⟨fuel, rfl⟩ := Nat.exists_eq_add_one_of_ne_zero (Nat.ne_zero_of_lt hfuel)
    rcases truncates_cons.1 hcut with rfl | ⟨cut, rfl, hmembers⟩
    · rfl
    have hcomma : skipBlank (',' :: cut) = ',' :: cut := rfl
    rcases member_truncated htakes (Nat.le_trans (Nat.le_max_left _ _) hdepth)
      (hspends _ List.mem_cons_self s s₁ htakes) (Nat.le_of_lt_succ (Nat.lt_of_succ_lt hfuel))
      (ih (Nat.le_trans (Nat.le_max_right _ _) hdepth) fun m hm =>
        hspends m (List.mem_cons_of_mem _ hm)) hmembers with hskip | ⟨rest, hskip, he⟩
    · simp only [entriesUpTo, hcomma, hskip, Char.reduceEq, if_false, Bool.false_eq_true, or_true, if_true]
    · simp only [entriesUpTo, hcomma, hskip, Char.reduceEq, if_false, Bool.false_eq_true, or_true, if_true]
      exact he

/-- **An object that has lost its end is cut short**, whatever takes its members. -/
theorem entries_truncated (h : TakesMembers entry levels (depth + 1) s ms s')
    (hdepth : Value.depthOfMembers ms ≤ levels) (hspends : ∀ m ∈ ms, ∀ s s',
      Takes (entry s m.1) levels m.2.depth (memberText (depth + 1) m.2) s' →
        Spends (entry s m.1) (memberText (depth + 1) m.2))
    (hcut : Truncates cut (membersText depth ms)) : entries entry s cut = .error .cutShort := by
  cases h with
  | nil =>
    obtain rfl := truncates_singleton.1 hcut
    rfl
  | @cons _ s₁ _ key v ms htakes hms =>
    rcases member_truncated htakes (Nat.le_trans (Nat.le_max_left _ _) hdepth)
      (hspends _ List.mem_cons_self s s₁ htakes) (Nat.le_refl _)
      (entriesUpTo_truncated hms (Nat.le_trans (Nat.le_max_right _ _) hdepth) fun m hm =>
        hspends m (List.mem_cons_of_mem _ hm)) hcut with hskip | ⟨rest, hskip, he⟩
    · rw [entries, entriesUpTo, hskip]
    · simp only [entries, entriesUpTo, hskip, Char.reduceEq, if_false, true_or, if_true]
      exact he

end

/-! ## Values -/

theorem Value.depth_le_of_mem {m : String × Value} : ∀ {ms : List (String × Value)}, m ∈ ms →
    m.2.depth ≤ depthOfMembers ms
  | (_, v) :: ms, h => by
    rcases List.mem_cons.1 h with rfl | h
    · exact Nat.le_max_left _ _
    · exact Nat.le_trans (depth_le_of_mem h) (Nat.le_max_right _ _)

theorem Value.plain_of_mem {m : String × Value} : ∀ {ms : List (String × Value)}, PlainMembers ms →
    m ∈ ms → m.2.Plain
  | (_, v) :: ms, ⟨hv, hms⟩, h => by
    rcases List.mem_cons.1 h with rfl | h
    · exact hv
    · exact plain_of_mem hms h

theorem word_truncated : ∀ {es cut : List Char}, Truncates cut es → word es cut = .error .cutShort
  | [], _, h => absurd h not_truncates_nil
  | e :: es, cut, h => by
    rcases truncates_cons.1 h with rfl | ⟨cut, rfl, hes⟩
    · rfl
    · rw [word, if_pos rfl, word_truncated hes]

/-- The beginning of a number in digits is nothing, or another number in digits, which is not larger. -/
theorem truncates_toDigits {n : Nat} : ∀ {cut : List Char}, Truncates cut (Nat.toDigits 10 n) →
    cut = [] ∨ ∃ m ≤ n, cut = Nat.toDigits 10 m := by
  induction n using Nat.strongRecOn with
  | ind n ih =>
    intro cut h
    rw [Nat.toDigits_eq_if (by decide)] at h
    split at h
    · exact Or.inl (truncates_singleton.1 h)
    · rcases h.append with h | ⟨last, rfl, hlast⟩
      · rcases ih (n / 10) (by omega) h with rfl | ⟨m, hm, rfl⟩
        · exact Or.inl rfl
        · exact Or.inr ⟨m, by omega, rfl⟩
      · obtain rfl := truncates_singleton.1 hlast
        exact Or.inr ⟨n / 10, by omega, List.append_nil _⟩

theorem spends_boolValue : Spends boolValue (' ' :: "true".toList) := by
  intro cut hcut
  rcases truncates_cons.1 hcut with rfl | ⟨cut, rfl, htrue⟩
  · exact Or.inl rfl
  rcases truncates_cons.1 htrue with rfl | ⟨cut, rfl, hrue⟩
  · exact Or.inl rfl
  · exact Or.inl (congrArg (Except.map _) (word_truncated hrue))

theorem spends_stringValue (s : String) : Spends stringValue (' ' :: quote s) := by
  intro cut hcut
  rcases truncates_cons.1 hcut with rfl | ⟨cut, rfl, hquote⟩
  · exact Or.inl rfl
  rcases truncates_cons.1 hquote with rfl | ⟨cut, rfl, hbody⟩
  · exact Or.inl rfl
  · exact Or.inl (stringBody_truncated hbody)

/-- What follows a key is spent after the colon and its blank. -/
theorem Spends.colon {α β : Type} {reader : Reader α} {text : List Char}
    (h : Spends reader (' ' :: text)) (put : α → β) :
    Spends (fun cs => do
      let (_, rest) ← Json.colon cs
      let (a, rest) ← reader rest
      .ok (put a, rest)) (':' :: ' ' :: text) := by
  intro cut hcut
  rcases truncates_cons.1 hcut with rfl | ⟨cut, rfl, htext⟩
  · exact Or.inl rfl
  · have hcolon : Json.colon (':' :: cut) = .ok ((), cut) := rfl
    dsimp only
    rw [hcolon, ok_bind]
    exact (h cut htext).map put

theorem value_nil (levels : Nat) : value levels [] = .error .cutShort := by
  obtain ⟨array, object, hv⟩ := value_eq levels
  rw [hv]
  rfl

theorem spends_value {levels : Nat} {c : Char} {text : List Char}
    (h : ∀ cut, Truncates cut text → Spent (value levels (c :: cut))) :
    Spends (value levels) (c :: text) := by
  intro cut hcut
  rcases truncates_cons.1 hcut with rfl | ⟨cut, rfl, htext⟩
  · exact Or.inl (value_nil levels)
  · exact h cut htext

theorem spends_blank {levels : Nat} {text : List Char} (h : Spends (value levels) text) :
    Spends (value levels) (' ' :: text) :=
  spends_value fun cut hcut => by
    rw [value_blank]
    exact h cut hcut

theorem spends_member {levels depth : Nat} {v : Value} (before : List (String × Value)) (key : String)
    (h : Spends (value levels) (pretty depth v)) :
    Spends (member (value levels) before key) (memberText depth v) :=
  (spends_blank h).colon fun v => before ++ [(key, v)]

theorem spent_scalar {levels : Nat} {c : Char} {cut : List Char} (hblank : isBlank c = false)
    (harray : c ≠ '[') (hobject : c ≠ '\x7b') (h : scalar (c :: cut) = .error .cutShort) :
    Spent (value levels (c :: cut)) :=
  Or.inl ((value_scalar hblank harray hobject).trans h)

mutual

/-- **A plain value is spent, where enough levels are left.** -/
theorem value_spends : ∀ {v : Value}, v.Plain → ∀ {levels : Nat}, v.depth ≤ levels →
    ∀ depth : Nat, Spends (value levels) (pretty depth v)
  | .null, _, levels, _, _ => spends_value fun cut hcut => by
    refine spent_scalar (by decide) (by decide) (by decide) ?_
    exact congrArg (Except.map _) (word_truncated hcut)
  | .bool true, _, levels, _, _ => spends_value fun cut hcut => by
    refine spent_scalar (by decide) (by decide) (by decide) ?_
    exact congrArg (Except.map _) (word_truncated hcut)
  | .bool false, _, levels, _, _ => spends_value fun cut hcut => by
    refine spent_scalar (by decide) (by decide) (by decide) ?_
    exact congrArg (Except.map _) (word_truncated hcut)
  | .string s, _, levels, _, _ => spends_value fun cut hcut => by
    refine spent_scalar (by decide) (by decide) (by decide) ?_
    exact congrArg (Except.map _) (stringBody_truncated hcut)
  | .number spelling, ⟨n, hn, hs⟩, levels, _, depth => by
    subst hs
    intro cut hcut
    rcases truncates_toDigits hcut with rfl | ⟨m, hm, rfl⟩
    · exact Or.inl (value_nil levels)
    · have happart : Apart [] := fun _ h => by cases h
      have hvalue := value_toDigits levels (Nat.lt_of_le_of_lt hm hn) happart
      rw [List.append_nil] at hvalue
      exact Or.inr ⟨_, hvalue⟩
  | .array vs, h, levels + 1, hd, depth => by
    rw [pretty_array]
    rw [Value.depth] at hd
    refine spends_value fun cut hcut => Or.inl ?_
    exact congrArg (Except.map _) (items_truncated (takesItems_pretty h levels (depth + 1)) (by omega)
      (spends_items h (by omega) (depth + 1)) hcut)
  | .object ms, h, levels + 1, hd, depth => by
    rw [pretty_object]
    rw [Value.depth] at hd
    refine spends_value fun cut hcut => Or.inl ?_
    exact congrArg (Except.map _) (entries_truncated (takesMembers_pretty h levels (depth + 1) [])
      (by omega) (fun m hm before _ _ =>
        spends_member before m.1 (spends_members h (by omega) (depth + 1) m hm)) hcut)
  | .array _, _, 0, hd, _ => by rw [Value.depth] at hd; omega
  | .object _, _, 0, hd, _ => by rw [Value.depth] at hd; omega

theorem spends_items : ∀ {vs : List Value}, Value.PlainItems vs → ∀ {levels : Nat},
    Value.depthOfItems vs ≤ levels → ∀ depth : Nat, ∀ v ∈ vs, Spends (value levels) (pretty depth v)
  | [], _, _, _, _ => fun _ hv => by cases hv
  | v :: vs, ⟨hv, hvs⟩, levels, hd, depth => List.forall_mem_cons.2
    ⟨value_spends hv (Nat.le_trans (Nat.le_max_left _ _) hd) depth,
      spends_items hvs (Nat.le_trans (Nat.le_max_right _ _) hd) depth⟩

theorem spends_members : ∀ {ms : List (String × Value)}, Value.PlainMembers ms → ∀ {levels : Nat},
    Value.depthOfMembers ms ≤ levels →
      ∀ depth : Nat, ∀ m ∈ ms, Spends (value levels) (pretty depth m.2)
  | [], _, _, _, _ => fun _ hm => by cases hm
  | (_, v) :: ms, ⟨hv, hms⟩, levels, hd, depth => List.forall_mem_cons.2
    ⟨value_spends hv (Nat.le_trans (Nat.le_max_left _ _) hd) depth,
      spends_members hms (Nat.le_trans (Nat.le_max_right _ _) hd) depth⟩

end

end Json

end GraphLexer
