/-
Patterns without special characters.

A text none of whose characters is `special` is, read as a pattern, itself: the expression takes the
characters of its view, one after the other (`parse?_plain`), and matches where these begin what is left
(`matchLength_ofChars`). On both sides of a match stand views. As different units have different
characters in a view (`viewChar_injective`), one view begins another exactly where the units do; and as
no stand-in of a surrogate is special, a supplementary character of the text is as plain as any other.

So a node with such a pattern and one with the text as a literal take the same (`perform_plain`).
-/
import GraphLexer.Proofs.Graph.Arena
import GraphLexer.Proofs.Pattern.Chars
import GraphLexer.Proofs.Attempt.Perform

namespace GraphLexer

/-! ## Views -/

namespace Text

theorem toNat_viewChar (u : UInt16) : (viewChar u).toNat =
    if isHigh u || isLow u then 0x10F800 + (u.toNat - 0xD800) else u.toNat := by
  have hlt := u.toNat_lt
  unfold viewChar
  split
  · next h =>
    rw [Bool.or_eq_true, isHigh_iff, isLow_iff] at h
    exact toNat_ofNat (Or.inr ⟨by omega, by omega⟩)
  · next h =>
    rw [Bool.or_eq_true, isHigh_iff, isLow_iff] at h
    rcases Nat.lt_or_ge u.toNat 0xD800 with hu | hu
    · exact toNat_ofNat (Or.inl hu)
    · exact toNat_ofNat (Or.inr ⟨by omega, by omega⟩)

/-- Different units are stood for by different characters: the stand-ins of the surrogates are beyond
    the basic plane. -/
theorem viewChar_injective : Function.Injective viewChar := by
  intro u v h
  have hu := u.toNat_lt
  have hv := v.toNat_lt
  have hn := congrArg Char.toNat h
  simp only [toNat_viewChar, Bool.or_eq_true, isHigh_iff, isLow_iff] at hn
  refine UInt16.toNat_inj.1 ?_
  split at hn <;> split at hn <;> omega

/-- A unit of a character is stood for by the character itself, or by a stand-in of the last plane. -/
theorem viewChar_of_mem {c : Char} {u : UInt16} (h : u ∈ charUnits c) :
    viewChar u = c ∨ 0x10F800 ≤ (viewChar u).toNat := by
  have hlt := toNat_lt c
  have hs := not_surrogate c
  unfold charUnits at h
  split at h
  · next hc =>
    have hu : u.toNat = c.toNat := by
      rw [List.mem_singleton.1 h, UInt16.toNat_ofNat']
      exact Nat.mod_eq_of_lt hc
    refine Or.inl (Char.toNat_inj.1 ?_)
    rw [toNat_viewChar, if_neg (by rw [Bool.or_eq_true, isHigh_iff, isLow_iff]; omega), hu]
  · have hu : 0xD800 ≤ u.toNat ∧ u.toNat < 0xE000 := by
      simp only [List.mem_cons, List.not_mem_nil, or_false] at h
      rcases h with rfl | rfl <;> rw [UInt16.toNat_ofNat', Nat.mod_eq_of_lt (by omega)] <;> omega
    refine Or.inr ?_
    rw [toNat_viewChar, if_pos (by rw [Bool.or_eq_true, isHigh_iff, isLow_iff]; omega)]
    omega

theorem view_prefix_drop {t text : String} {pos : Nat} :
    view t <+: (view text).drop pos ↔ units t <+: (units text).drop pos := by
  rw [view, view, ← List.map_drop]
  exact List.prefix_map_iff_of_injective viewChar_injective

theorem length_view (t : String) : (view t).length = length t := by
  rw [view, List.length_map, length_eq]

end Text

/-! ## Reading -/

namespace Regex

theorem andThen_empty (a : Regex) : a.andThen .empty = a := by
  cases a <;> rfl

/-- The expression that takes characters, one after the other. -/
def ofChars : List Char → Regex
  | [] => .empty
  | c :: cs => (chars (.single c)).andThen (ofChars cs)

end Regex

namespace Pattern

def special : List Char :=
  ['\\', '.', '+', '*', '?', '(', ')', '|', '[', ']', '\x7b', '\x7d', '^', '$']

/-- No character of a text is special. -/
def IsPlain (t : String) : Prop :=
  ∀ c ∈ t.toList, c ∉ special

instance (t : String) : Decidable (IsPlain t) :=
  List.decidableBAll (· ∉ special) t.toList

theorem lt_of_special : ∀ c ∈ special, c.toNat < 0x10F800 := by simp [special]

theorem IsPlain.view {t : String} (h : IsPlain t) : ∀ c ∈ Text.view t, c ∉ special := by
  intro c hc
  obtain ⟨u, hu, rfl⟩ := List.mem_map.1 hc
  obtain ⟨c, hc, hu⟩ := List.mem_flatMap.1 hu
  rcases Text.viewChar_of_mem hu with h' | h'
  · exact h' ▸ h c hc
  · exact fun hs => absurd (lt_of_special _ hs) (Nat.not_lt.2 h')

/-- A character that is not special is a piece that takes it. -/
theorem branches_cons {fuel : Nat} {done ps : List Piece} {c : Char} {rest : List Char}
    (h : c ∉ special) : branches (fuel + 1) .initial done ps (c :: rest) =
      branches fuel .initial done (leaf (.chars (.single c)) :: ps) rest := by
  have hskip : skip .initial (c :: rest) = c :: rest := rfl
  rw [branches, hskip]
  dsimp only
  -- The last case is that of all other characters.
  split
  case h_13 => rfl
  all_goals exact absurd (by decide) h

theorem branches_plain {done : List Piece} : ∀ {cs : List Char} {fuel : Nat} {ps : List Piece},
    (∀ c ∈ cs, c ∉ special) → cs.length < fuel → branches fuel .initial done ps cs =
      some (alternatives (sequence ((cs.map fun c => leaf (.chars (.single c))).reverse ++ ps)) done, [])
  | [], _ + 1, _, _, _ => rfl
  | c :: cs, fuel + 1, ps, h, hfuel => by
    rw [branches_cons (h c (by simp)), branches_plain (fun c hc => h c (by simp [hc]))
      (Nat.lt_of_succ_lt_succ hfuel), List.map_cons, List.reverse_cons, List.append_assoc]
    rfl

theorem regex_sequence (ps : List Piece) :
    (sequence ps).regex = ps.foldl (fun r p => p.regex.andThen r) .empty := by
  match ps with
  | [] => rfl
  | [p] => exact p.regex.andThen_empty.symm
  | p :: q :: before => rw [List.foldl_cons, Regex.andThen_empty]; rfl

end Pattern

namespace Regex

/-- **A plain text is read as itself.** -/
theorem parse?_plain {cs : List Char} {r : Regex} (h : ∀ c ∈ cs, c ∉ Pattern.special)
    (hr : parse? cs = some r) : r = ofChars cs := by
  rw [parse?, Pattern.branches_plain h (Nat.lt_succ_self _)] at hr
  simp only [Pattern.alternatives, List.append_nil, Option.ite_none_right_eq_some,
    Option.some.injEq, Pattern.regex_sequence, List.foldl_reverse, List.foldr_map] at hr
  rw [← hr.2]
  clear hr
  induction cs with
  | nil => rfl
  | cons c cs ih => rw [ofChars, ← ih fun c hc => h c (by simp [hc])]; rfl

/-! ## Matching -/

theorem heads_ofChars (place : Place) (c : Char) (cs : List Char) :
    List.flatMap (heads place) [ofChars (c :: cs)] = [.take (.single c) (ofChars cs)] := by
  rw [List.flatMap_singleton, ofChars]
  generalize ofChars cs = rest
  cases rest <;> rfl

theorem contains_single {c d : Char} : (CharSet.single c).contains d = true ↔ d = c := by
  rw [CharSet.single, CharSet.contains, CharSet.mem, Bool.and_eq_true, decide_eq_true_eq,
    decide_eq_true_eq, ← Char.toNat_inj]
  omega

theorem follow_ofChars {cs text : List Char} : ∀ {before : Option Char} {taken : Nat},
    follow [ofChars cs] before taken none text =
      if cs <+: text then some (taken + cs.length) else none := by
  induction cs generalizing text with
  | nil => intro before taken; rw [ofChars, follow_empty, if_pos List.nil_prefix]; rfl
  | cons c cs ih =>
    intro before taken
    cases text with
    | nil => rw [follow, heads_ofChars, if_neg (by simp [Head.isDone])]; rfl
    | cons d rest =>
      simp only [follow, heads_ofChars, List.any_cons, List.any_nil, Head.isDone, Bool.or_false,
        Bool.false_eq_true, if_false, next_take, contains_single, List.cons_prefix_cons,
        List.length_cons]
      by_cases hd : d = c
      · simp only [hd, if_true, true_and, ih]
        rw [Nat.add_assoc, Nat.add_comm 1]
      · rw [if_neg hd, if_neg fun h => hd h.1.symm]

/-- **The characters match where the text begins with them.** -/
theorem matchLength_ofChars {cs text : List Char} :
    (ofChars cs).matchLength text = if cs <+: text then some cs.length else none := by
  rw [matchLength, follow_ofChars, Nat.zero_add]

end Regex

/-! ## Nodes -/

namespace Attempt

variable {a : Attempt} {input t : String} {pos : Nat}

/-- A node with a plain text, as a literal or as a pattern, takes the units of the text where they
    stand. -/
theorem taken_plain (hs : a.source = Source.ofText input) (hpos : pos ≤ Text.length input)
    (ht : Pattern.IsPlain t) {names : Graph.Names} {step : Step} {node : Node}
    (hd : Graph.Does Regex.engine names step node) (hnode : node = .literal t ∨ node = .regex t) :
    a.taken pos step =
      if Text.units t <+: (Text.units input).drop pos then some (Text.length t) else none := by
  rw [Text.length_eq] at hpos
  rcases hnode with rfl | rfl
  · cases hd
    simp only [taken, hs, Source.hasUnitsAt_ofText, hpos, true_and, Text.length_eq]
  · cases hd with
    | regex hr =>
      obtain ⟨regex, hregex, rfl⟩ := Option.map_eq_some_iff.1 hr
      simp only [taken, Regex.matcher, hs, Source.viewFrom_ofText, hpos, if_true, Option.bind_some,
        Regex.parse?_plain ht.view hregex, Regex.matchLength_ofChars, Text.view_prefix_drop,
        Text.length_view]

theorem isMatcher_plain {names : Graph.Names} {step : Step} {node : Node}
    (hd : Graph.Does Regex.engine names step node) (hnode : node = .literal t ∨ node = .regex t) :
    step.isMatcher = true := by
  rcases hnode with rfl | rfl <;> cases hd <;> rfl

/-- **A literal and a pattern agree on plain text.** At every position up to the end of the input, also
    within a pair, a node with a text without special characters goes on exactly where the units of the
    text stand, and has then taken as many; whether the text is its literal or its pattern. -/
theorem perform_plain {g : Grammar} (hg : Graph.ofGrammar g = .ok a.graph)
    (hs : a.source = Source.ofText input) (hpos : pos ≤ Text.length input) (ht : Pattern.IsPlain t)
    {id : Nat} {node : GraphNode} (hn : a.graph.node? id = some node)
    (hnode : a.graph.describe node.step = .literal t ∨ a.graph.describe node.step = .regex t)
    (go : Nat → Nat → Nat → Result) (ticks : Nat) : a.perform go id pos ticks =
      if Text.units t <+: (Text.units input).drop pos
      then a.advance go id node pos (Text.length t) ticks else .rejected ticks := by
  have hrel := Graph.node?_rel hg id
  rw [hn] at hrel
  generalize (Tree.allSubtrees g.states)[id]? = u at hrel
  cases hrel with
  | some hlays =>
    have hd := hlays.step
    rw [Graph.describe_eq hd] at hnode
    rw [perform_matcher hn (isMatcher_plain hd hnode), taken_plain hs hpos ht hd hnode]
    by_cases h : Text.units t <+: (Text.units input).drop pos
    · simp only [if_pos h]
    · simp only [if_neg h]

/-- A supplementary character between one of the basic plane and one that is itself a stand-in. -/
def planes : String :=
  String.ofList ['é', Char.ofNat 0x1F600, Char.ofNat 0x10F800]

def twice : Grammar where
  root := "S"
  states := [.plain (.state "S") [.plain (.regex planes) [], .plain (.literal planes) []]]
  named := by simp [Tree.plain, Tree.stateName?]
  distinct := by simp [Tree.plain, Tree.stateNames, Tree.stateName?]

/-- Both nodes take five units at the start of the text, and nothing within its first pair. -/
theorem twice_agree : ∃ graph regex literal, Graph.ofGrammar twice = .ok graph ∧
    graph.node? 1 = some regex ∧ graph.node? 2 = some literal ∧
    let a : Attempt := ⟨graph, .ofText planes, .default, 0⟩
    ∀ go ticks,
      (a.perform go 1 0 ticks = a.advance go 1 regex 0 5 ticks ∧
        a.perform go 2 0 ticks = a.advance go 2 literal 0 5 ticks) ∧
      a.perform go 1 2 ticks = .rejected ticks ∧ a.perform go 2 2 ticks = .rejected ticks := by
  obtain ⟨graph, regex, literal, hg, hn, hn', hr, hl⟩ : ∃ graph regex literal,
      Graph.ofGrammar twice = .ok graph ∧ graph.node? 1 = some regex ∧ graph.node? 2 = some literal ∧
        graph.describe regex.step = .regex planes ∧ graph.describe literal.step = .literal planes :=
    ⟨_, _, _, rfl, rfl, rfl, rfl, rfl⟩
  have ht : Pattern.IsPlain planes := by decide
  refine ⟨graph, regex, literal, hg, hn, hn', fun go ticks => ⟨⟨?_, ?_⟩, ?_, ?_⟩⟩
  · exact (perform_plain hg rfl (by decide) ht hn (.inr hr) go ticks).trans (if_pos (by decide))
  · exact (perform_plain hg rfl (by decide) ht hn' (.inl hl) go ticks).trans (if_pos (by decide))
  · exact (perform_plain hg rfl (by decide) ht hn (.inr hr) go ticks).trans (if_neg (by decide))
  · exact (perform_plain hg rfl (by decide) ht hn' (.inl hl) go ticks).trans (if_neg (by decide))

end Attempt

end GraphLexer
