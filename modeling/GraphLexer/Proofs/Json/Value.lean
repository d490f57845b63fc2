/-
Values on lines are read back, unless they are nested too deep.

`within levels depth` is what a reader comes to that may open `levels` arrays and objects, at a value that
is nested `depth` deep: the value, or the fault of a text that is malformed. The loops of arrays and
objects keep this form (`items_itemsText`, `entries_membersText`), whatever reads their items and members,
and so does the reader of values (`value_pretty`).
-/
import GraphLexer.Proofs.Json.Scalar

namespace GraphLexer.Json

/-! ## Nesting -/

mutual

/-- How many arrays and objects are open at once where a value is nested deepest. -/
def Value.depth : Value → Nat
  | .array items => 1 + Value.depthOfItems items
  | .object members => 1 + Value.depthOfMembers members
  | _ => 0

/-- The depth of the items of an array. -/
def Value.depthOfItems : List Value → Nat
  | [] => 0
  | v :: vs => max v.depth (Value.depthOfItems vs)

/-- The depth of the members of an object. -/
def Value.depthOfMembers : List (String × Value) → Nat
  | [] => 0
  | (_, v) :: ms => max v.depth (Value.depthOfMembers ms)

end

/-- What is read of a value that is nested `depth` deep, where `levels` may be open. -/
def within {α : Type} (levels depth : Nat) (r : α × List Char) : Except Fault (α × List Char) :=
  if depth ≤ levels then .ok r else .error .malformed

section
variable {α β : Type} {levels depth depth' : Nat}

theorem within_zero (r : α × List Char) : within levels 0 r = .ok r :=
  if_pos (Nat.zero_le _)

theorem within_bind {r : α × List Char} {f : α × List Char → Except Fault (β × List Char)} {b : β}
    {rest : List Char} (h : f r = within levels depth' (b, rest)) :
    (within levels depth r >>= f) = within levels (max depth depth') (b, rest) := by
  unfold within at h ⊢
  by_cases hd : depth ≤ levels
  · rw [if_pos hd, ok_bind, h]
    simp only [Nat.max_le, hd, true_and]
  · rw [if_neg hd, error_bind, if_neg fun hle => hd (Nat.le_trans (Nat.le_max_left _ _) hle)]

theorem within_bind_ok {r : α × List Char} {f : α × List Char → Except Fault (β × List Char)}
    {r' : β × List Char} (h : f r = .ok r') : (within levels depth r >>= f) = within levels depth r' := by
  unfold within
  split
  · exact h
  · rfl

theorem within_map (r : α × List Char) (f : α × List Char → β × List Char) :
    (within levels depth r).map f = within levels depth (f r) := by
  unfold within
  split <;> rfl

/-- Nothing is read of an array or object where none may be open. -/
theorem within_none (r : α × List Char) : within 0 (1 + depth) r = .error .malformed :=
  if_neg (by omega)

/-- One level more for a value that is one deeper. -/
theorem within_succ (r : α × List Char) : within (levels + 1) (1 + depth) r = within levels depth r := by
  unfold within
  simp only [Nat.add_comm 1, Nat.add_le_add_iff_right]

end

/-! ## Blanks -/

/-- A text that does not begin with a blank, nor with the end of an array. -/
def Starts (text : List Char) : Prop :=
  ∃ c cs, text = c :: cs ∧ isBlank c = false ∧ c ≠ ']'

theorem isBlank_of_mem_lineBreak {depth : Nat} : ∀ c ∈ lineBreak depth, isBlank c = true := by
  intro c hc
  rcases List.mem_cons.1 hc with rfl | hc
  · rfl
  · rw [List.eq_of_mem_replicate hc]; rfl

theorem skipBlank_lineBreak (depth : Nat) (cs : List Char) :
    skipBlank (lineBreak depth ++ cs) = skipBlank cs :=
  List.dropWhile_append_of_pos isBlank_of_mem_lineBreak

theorem Starts.exists_cons {text : List Char} (h : Starts text) (rest : List Char) :
    ∃ c cs, text ++ rest = c :: cs ∧ skipBlank (text ++ rest) = c :: cs ∧ c ≠ ']' := by
  obtain ⟨c, cs, rfl, hblank, hc⟩ := h
  exact ⟨c, cs ++ rest, rfl, List.dropWhile_cons_of_neg (by simp [hblank]), hc⟩

/-! ## Arrays and objects -/

/-- A reader takes `a` from a text that is nested `depth` deep, where `levels` may be open, if nothing
    follows that goes on with the text. -/
def Takes {α : Type} (reader : Reader α) (levels depth : Nat) (text : List Char) (a : α) : Prop :=
  ∀ rest, Apart rest → reader (text ++ rest) = within levels depth (a, rest)

/-- What is written of an array after its bracket. -/
def itemsText (depth : Nat) : List Value → List Char
  | [] => [']']
  | v :: vs => lineBreak (depth + 1) ++ pretty (depth + 1) v ++ prettyItems depth vs

theorem pretty_array (depth : Nat) (vs : List Value) :
    pretty depth (.array vs) = '[' :: itemsText depth vs := by
  cases vs <;> rfl

/-- What is written of an object after its brace. -/
def membersText (depth : Nat) : List (String × Value) → List Char
  | [] => ['\x7d']
  | (key, v) :: ms =>
    lineBreak (depth + 1) ++ quote key ++ ':' :: ' ' :: pretty (depth + 1) v ++ prettyMembers depth ms

theorem pretty_object (depth : Nat) (ms : List (String × Value)) :
    pretty depth (.object ms) = '\x7b' :: membersText depth ms := by
  cases ms with
  | nil => rfl
  | cons m ms => simp [pretty, membersText]

theorem apart_prettyItems (depth : Nat) (vs : List Value) (rest : List Char) :
    Apart (prettyItems depth vs ++ rest) := by
  cases vs <;> exact apart_cons (by decide) _

theorem apart_prettyMembers (depth : Nat) (ms : List (String × Value)) (rest : List Char) :
    Apart (prettyMembers depth ms ++ rest) := by
  cases ms <;> exact apart_cons (by decide) _

/-- The items of an array are taken one by one. -/
inductive TakesItems {α : Type} (item : Reader α) (levels depth : Nat) : List Value → List α → Prop
  | nil : TakesItems item levels depth [] []
  | cons {v : Value} {a : α} {vs : List Value} {as : List α} : Starts (pretty depth v) →
      Takes item levels v.depth (pretty depth v) a → TakesItems item levels depth vs as →
      TakesItems item levels depth (v :: vs) (a :: as)

/-- The members of an object are taken one by one, each from the state that the one before it left. -/
inductive TakesMembers {σ : Type} (entry : σ → String → Reader σ) (levels depth : Nat) :
    σ → List (String × Value) → σ → Prop
  | nil {s : σ} : TakesMembers entry levels depth s [] s
  | cons {s s' s'' : σ} {key : String} {v : Value} {ms : List (String × Value)} :
      Takes (entry s key) levels v.depth (':' :: ' ' :: pretty depth v) s' →
      TakesMembers entry levels depth s' ms s'' →
      TakesMembers entry levels depth s ((key, v) :: ms) s''

theorem TakesMembers.append {σ : Type} {entry : σ → String → Reader σ} {levels depth : Nat}
    {s s' s'' : σ} {ms ns : List (String × Value)} (h : TakesMembers entry levels depth s ms s')
    (h' : TakesMembers entry levels depth s' ns s'') :
    TakesMembers entry levels depth s (ms ++ ns) s'' := by
  induction h with
  | nil => exact h'
  | cons htakes _ ih => exact .cons htakes (ih h')

section
variable {α : Type} {item : Reader α} {levels depth : Nat}

/-- The items after the first one, by induction on them. -/
theorem itemsUpTo_prettyItems {vs : List Value} {as : List α}
    (h : TakesItems item levels (depth + 1) vs as) : ∀ {fuel : Nat}, vs.length < fuel → ∀ rest,
      itemsUpTo item fuel false (prettyItems depth vs ++ rest) =
        within levels (Value.depthOfItems vs) (as, rest) := by
  induction h with
  | nil =>
    intro fuel hfuel rest
    obtain ⟨fuel, rfl⟩ := Nat.exists_eq_add_one_of_ne_zero (Nat.ne_zero_of_lt hfuel)
    rw [itemsUpTo, prettyItems, List.append_assoc, skipBlank_lineBreak, Value.depthOfItems, within_zero]
    rfl
  | @cons v a vs as hstarts htakes _ ih =>
    intro fuel hfuel rest
    obtain ⟨fuel, rfl⟩ := Nat.exists_eq_add_one_of_ne_zero (Nat.ne_zero_of_lt hfuel)
    rw [List.length_cons] at hfuel
    have hitem := htakes _ (apart_prettyItems depth vs rest)
    obtain ⟨c, cs, htext, hskip, hc⟩ := hstarts.exists_cons (prettyItems depth vs ++ rest)
    rw [htext] at hitem
    have hcomma : skipBlank (prettyItems depth (v :: vs) ++ rest) =
        ',' :: (lineBreak (depth + 1) ++ (pretty (depth + 1) v ++ (prettyItems depth vs ++ rest))) := by
      simp [prettyItems, skipBlank, isBlank]
    rw [itemsUpTo, hcomma]
    simp only [Char.reduceEq, if_false, Bool.false_eq_true, if_true, skipBlank_lineBreak, hskip, if_neg hc,
      hitem]
    refine within_bind ?_
    dsimp only
    rw [ih (by omega) rest]
    exact within_bind_ok rfl

theorem length_le_prettyItems (depth : Nat) (vs : List Value) :
    vs.length < (prettyItems depth vs).length := by
  induction vs with
  | nil => simp [prettyItems, lineBreak]
  | cons v vs ih =>
    simp only [prettyItems, List.length_append, List.length_cons]
    omega

/-- **The items of an array are read back**, whatever reads one of them. -/
theorem items_itemsText {vs : List Value} {as : List α} (h : TakesItems item levels (depth + 1) vs as)
    (rest : List Char) :
    items item (itemsText depth vs ++ rest) = within levels (Value.depthOfItems vs) (as, rest) := by
  cases h with
  | nil => rw [Value.depthOfItems, within_zero]; rfl
  | @cons v a vs as hstarts htakes hvs =>
    have hitem := htakes _ (apart_prettyItems depth vs rest)
    obtain ⟨c, cs, htext, hskip, hc⟩ := hstarts.exists_cons (prettyItems depth vs ++ rest)
    rw [htext] at hitem
    have hfirst : skipBlank (itemsText depth (v :: vs) ++ rest) = c :: cs := by
      rw [itemsText, List.append_assoc, List.append_assoc, skipBlank_lineBreak, hskip]
    have hfuel : vs.length < (itemsText depth (v :: vs) ++ rest).length := by
      have := length_le_prettyItems depth vs
      simp only [itemsText, List.length_append]
      omega
    rw [items, itemsUpTo, hfirst]
    simp only [if_neg hc, if_true, hitem]
    refine within_bind ?_
    dsimp only
    rw [itemsUpTo_prettyItems hvs hfuel rest]
    exact within_bind_ok rfl

end

section
variable {σ : Type} {entry : σ → String → Reader σ} {levels depth : Nat}

/-- The members after the first one, by induction on them. -/
theorem entriesUpTo_prettyMembers {s s' : σ} {ms : List (String × Value)}
    (h : TakesMembers entry levels (depth + 1) s ms s') : ∀ {fuel : Nat}, ms.length < fuel → ∀ rest,
      entriesUpTo entry fuel false s (prettyMembers depth ms ++ rest) =
        within levels (Value.depthOfMembers ms) (s', rest) := by
  induction h with
  | nil =>
    intro fuel hfuel rest
    obtain ⟨fuel, rfl⟩ := Nat.exists_eq_add_one_of_ne_zero (Nat.ne_zero_of_lt hfuel)
    rw [entriesUpTo, prettyMembers, List.append_assoc, skipBlank_lineBreak, Value.depthOfMembers,
      within_zero]
    rfl
  | @cons s s' s'' key v ms htakes _ ih =>
    intro fuel hfuel rest
    obtain ⟨fuel, rfl⟩ := Nat.exists_eq_add_one_of_ne_zero (Nat.ne_zero_of_lt hfuel)
    rw [List.length_cons] at hfuel
    have hentry := htakes _ (apart_prettyMembers depth ms rest)
    have hcomma : skipBlank (prettyMembers depth ((key, v) :: ms) ++ rest) =
        ',' :: (lineBreak (depth + 1) ++ (quote key ++
          (':' :: ' ' :: pretty (depth + 1) v ++ (prettyMembers depth ms ++ rest)))) := by
      simp [prettyMembers, skipBlank, isBlank]
    have hquote : skipBlank (lineBreak (depth + 1) ++ (quote key ++
          (':' :: ' ' :: pretty (depth + 1) v ++ (prettyMembers depth ms ++ rest)))) =
        '"' :: (key.toList.flatMap quoteChar ++ '"' ::
          (':' :: ' ' :: pretty (depth + 1) v ++ (prettyMembers depth ms ++ rest))) := by
      rw [skipBlank_lineBreak, quote_append]
      rfl
    rw [entriesUpTo, hcomma]
    simp only [Char.reduceEq, if_false, Bool.false_eq_true, or_true, if_true, hquote, stringBody_quote,
      ok_bind, hentry]
    exact within_bind (ih (by omega) rest)

theorem length_le_prettyMembers (depth : Nat) (ms : List (String × Value)) :
    ms.length < (prettyMembers depth ms).length := by
  induction ms with
  | nil => simp [prettyMembers, lineBreak]
  | cons m ms ih =>
    simp only [prettyMembers, List.length_append, List.length_cons]
    omega

/-- **The members of an object are read back**, whatever takes one of them. -/
theorem entries_membersText {s s' : σ} {ms : List (String × Value)}
    (h : TakesMembers entry levels (depth + 1) s ms s') (rest : List Char) :
    entries entry s (membersText depth ms ++ rest) =
      within levels (Value.depthOfMembers ms) (s', rest) := by
  cases h with
  | nil => rw [Value.depthOfMembers, within_zero]; rfl
  | @cons _ s₁ _ key v ms htakes hms =>
    have hentry := htakes _ (apart_prettyMembers depth ms rest)
    have hfirst : skipBlank (membersText depth ((key, v) :: ms) ++ rest) =
        '"' :: (key.toList.flatMap quoteChar ++ '"' ::
          (':' :: ' ' :: pretty (depth + 1) v ++ (prettyMembers depth ms ++ rest))) := by
      rw [membersText, List.append_assoc, List.append_assoc, List.append_assoc, skipBlank_lineBreak,
        quote_append]
      rfl
    have hfuel : ms.length < (membersText depth ((key, v) :: ms) ++ rest).length := by
      have := length_le_prettyMembers depth ms
      simp only [membersText, List.length_append]
      omega
    rw [entries, entriesUpTo, hfirst]
    simp only [Char.reduceEq, if_false, true_or, if_true, stringBody_quote, ok_bind, hentry]
    exact within_bind (entriesUpTo_prettyMembers hms hfuel rest)

end

/-! ## Values -/

mutual

/-- A value whose numbers are natural numbers of 32 bits, spelt in digits. -/
def Value.Plain : Value → Prop
  | .number spelling => ∃ n < UInt32.size, spelling = Nat.toDigits 10 n
  | .array items => Value.PlainItems items
  | .object members => Value.PlainMembers members
  | _ => True

/-- Items that are plain values. -/
def Value.PlainItems : List Value → Prop
  | [] => True
  | v :: vs => v.Plain ∧ Value.PlainItems vs

/-- Members that are plain values. -/
def Value.PlainMembers : List (String × Value) → Prop
  | [] => True
  | (_, v) :: ms => v.Plain ∧ Value.PlainMembers ms

end

theorem Value.plainMembers_append {ms ns : List (String × Value)} (hms : PlainMembers ms)
    (hns : PlainMembers ns) : PlainMembers (ms ++ ns) := by
  induction ms with
  | nil => exact hns
  | cons m ms ih => exact ⟨hms.1, ih hms.2⟩

theorem starts_pretty {v : Value} (h : v.Plain) (depth : Nat) : Starts (pretty depth v) := by
  cases v with
  | null => exact ⟨'n', _, rfl, by decide, by decide⟩
  | bool b => cases b <;> exact ⟨_, _, rfl, by decide, by decide⟩
  | number spelling =>
    obtain ⟨n, -, rfl⟩ := h
    have hdigit := all_isDigit_toDigits n
    rw [pretty]
    cases hd : Nat.toDigits 10 n with
    | nil => exact absurd hd Nat.toDigits_ne_nil
    | cons d ds =>
      have hd' : d.isDigit = true := hdigit d (by rw [hd]; exact List.mem_cons_self)
      refine ⟨d, ds, rfl, ?_, ?_⟩
      · cases hb : isBlank d with
        | false => rfl
        | true =>
          simp only [isBlank, Bool.or_eq_true, beq_iff_eq] at hb
          rcases hb with ((rfl | rfl) | rfl) | rfl <;> exact absurd hd' (by decide)
      · rintro rfl
        exact absurd hd' (by decide)
  | string s => exact ⟨'"', _, rfl, by decide, by decide⟩
  | array vs => exact ⟨'[', _, pretty_array depth vs, by decide, by decide⟩
  | object ms => exact ⟨'\x7b', _, pretty_object depth ms, by decide, by decide⟩

theorem value_eq (levels : Nat) : ∃ array object, value levels = valueWith array object := by
  cases levels <;> exact ⟨_, _, rfl⟩

/-- A reader of values passes over a blank. -/
theorem value_blank (levels : Nat) (cs : List Char) : value levels (' ' :: cs) = value levels cs := by
  obtain ⟨array, object, hv⟩ := value_eq levels
  rw [hv]
  rfl

theorem value_scalar {levels : Nat} {c : Char} {cs : List Char} (hblank : isBlank c = false)
    (harray : c ≠ '[') (hobject : c ≠ '\x7b') : value levels (c :: cs) = scalar (c :: cs) := by
  obtain ⟨array, object, hv⟩ := value_eq levels
  have hskip : skipBlank (c :: cs) = c :: cs := List.dropWhile_cons_of_neg (by simp [hblank])
  rw [hv, valueWith, hskip]
  simp only [if_neg harray, if_neg hobject]

theorem value_quote (levels : Nat) (s : String) (rest : List Char) :
    value levels (quote s ++ rest) = .ok (.string s, rest) := by
  rw [quote_append, value_scalar (by decide) (by decide) (by decide)]
  simp only [scalar, Char.reduceEq, if_false, if_true, stringBody_quote]
  rfl

theorem value_toDigits (levels : Nat) {n : Nat} (hn : n < UInt32.size) {rest : List Char}
    (h : Apart rest) :
    value levels (Nat.toDigits 10 n ++ rest) = .ok (.number (Nat.toDigits 10 n), rest) := by
  have hnumber := number_toDigits hn h
  have hdigit := all_isDigit_toDigits n
  generalize hds : Nat.toDigits 10 n = ds at hnumber hdigit
  cases ds with
  | nil => exact absurd hds Nat.toDigits_ne_nil
  | cons d ds =>
    have hd : d.isDigit = true := hdigit d List.mem_cons_self
    have hne : ∀ c : Char, c.isDigit = false → d ≠ c := by
      rintro c hc rfl
      rw [hd] at hc
      cases hc
    have hblank : isBlank d = false := by
      simp [isBlank, hne ' ' rfl, hne '\n' rfl, hne '\t' rfl, hne '\r' rfl]
    rw [List.cons_append] at hnumber ⊢
    rw [value_scalar hblank (hne _ rfl) (hne _ rfl), scalar]
    simp only [hne 'n' rfl, hne 't' rfl, hne 'f' rfl, hne '"' rfl, hd, if_false, or_true, if_true, hnumber]
    rfl

/-- What follows a key is read after the colon and its blank, and put where it belongs. -/
theorem Takes.colon {α β : Type} {reader : Reader α} {levels depth : Nat} {text : List Char} {a : α}
    (h : Takes reader levels depth (' ' :: text) a) (put : α → β) :
    Takes (fun cs => do
      let (_, rest) ← Json.colon cs
      let (a, rest) ← reader rest
      .ok (put a, rest)) levels depth (':' :: ' ' :: text) (put a) := by
  intro rest hrest
  have hcolon : Json.colon (':' :: ' ' :: text ++ rest) = .ok ((), ' ' :: text ++ rest) := rfl
  dsimp only
  rw [hcolon, ok_bind]
  dsimp only
  rw [h rest hrest]
  exact within_bind_ok rfl

/-- A member is put behind the members before it. -/
theorem member_takes {levels depth : Nat} {v : Value} (before : List (String × Value)) (key : String)
    (h : Takes (value levels) levels v.depth (pretty depth v) v) :
    Takes (member (value levels) before key) levels v.depth (':' :: ' ' :: pretty depth v)
      (before ++ [(key, v)]) := by
  have hblank : Takes (value levels) levels v.depth (' ' :: pretty depth v) v := by
    intro rest hrest
    rw [List.cons_append, value_blank]
    exact h rest hrest
  exact hblank.colon fun v => before ++ [(key, v)]

mutual

/-- **A plain value is read back if it is not nested too deep**, and otherwise the text is refused. -/
theorem value_pretty : ∀ {v : Value}, v.Plain → ∀ levels depth : Nat,
    Takes (value levels) levels v.depth (pretty depth v) v
  | .null, _, levels, _, rest, _ => by cases levels <;> exact (within_zero _).symm
  | .bool b, _, levels, _, rest, _ => by cases levels <;> cases b <;> exact (within_zero _).symm
  | .string s, _, levels, _, rest, _ => (value_quote levels s rest).trans (within_zero _).symm
  | .number spelling, ⟨n, hn, hs⟩, levels, depth, rest, hrest => by
    subst hs
    exact (value_toDigits levels hn hrest).trans (within_zero _).symm
  | .array vs, h, 0, depth, rest, _ => by rw [pretty_array, Value.depth, within_none]; rfl
  | .array vs, h, levels + 1, depth, rest, _ => by
    have hitems := items_itemsText (takesItems_pretty h levels (depth + 1)) rest
    rw [pretty_array, Value.depth, within_succ]
    exact (congrArg (Except.map _) hitems).trans (within_map _ _)
  | .object ms, h, 0, depth, rest, _ => by rw [pretty_object, Value.depth, within_none]; rfl
  | .object ms, h, levels + 1, depth, rest, _ => by
    have hmembers := entries_membersText (takesMembers_pretty h levels (depth + 1) []) rest
    rw [pretty_object, Value.depth, within_succ]
    exact (congrArg (Except.map _) hmembers).trans (within_map _ _)

theorem takesItems_pretty : ∀ {vs : List Value}, Value.PlainItems vs → ∀ levels depth : Nat,
    TakesItems (value levels) levels depth vs vs
  | [], _, _, _ => .nil
  | _ :: _, ⟨hv, hvs⟩, levels, depth =>
    .cons (starts_pretty hv depth) (value_pretty hv levels depth) (takesItems_pretty hvs levels depth)

theorem takesMembers_pretty : ∀ {ms : List (String × Value)}, Value.PlainMembers ms →
    ∀ (levels depth : Nat) (before : List (String × Value)),
      TakesMembers (member (value levels)) levels depth before ms (before ++ ms)
  | [], _, _, _, before => by rw [List.append_nil]; exact .nil
  | (key, v) :: ms, ⟨hv, hms⟩, levels, depth, before => by
    have hlater := takesMembers_pretty hms levels depth (before ++ [(key, v)])
    rw [List.append_assoc] at hlater
    exact .cons (member_takes before key (value_pretty hv levels depth)) hlater

end

end GraphLexer.Json
