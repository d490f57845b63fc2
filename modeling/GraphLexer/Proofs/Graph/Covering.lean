/-
A check that finds nodes whose tags leave out only what may be left out.

`Gaps` says what may be left out: blanks anywhere, and a mark right before a tag with one of certain
names. A node covers if whatever it takes itself may be left out, and all nodes it goes on to cover; a
node that puts a tag around a match covers if it takes something. Which nodes these are depends on which
other nodes cover, so they are found by dropping nodes, as for `consuming`.

The tags of every match of a node that covers are `Covers`, by induction on the levels to spare
(`covers_of_visit`).
-/
import GraphLexer.Proofs.Attempt.Inversion
import GraphLexer.Proofs.Graph.Consuming
import GraphLexer.Proofs.Pattern.Chars
import GraphLexer.Proofs.Tag.Cover

namespace GraphLexer

/-- What tags may leave out. -/
structure Gaps where
  /-- the characters that may stand anywhere -/
  blank : CharSet
  /-- a unit that may stand right before certain tags -/
  mark : Option UInt16
  /-- the names of these tags -/
  marked : String → Bool

namespace Gaps

variable {ν : Type} (gaps : Gaps) (name : ν → String)

/-- One of the tags starts at a position and has a name that may follow a mark. -/
def Marked (pos : Nat) (ts : List (Tag ν)) : Prop :=
  ∃ t ∈ ts, t.index = pos ∧ gaps.marked (name t.name)

/-- The unit at a position of a text may be left out where some tags stand. -/
def Allows (text : String) (pos : Nat) (ts : List (Tag ν)) : Prop :=
  ∃ unit, (Text.units text)[pos]? = some unit ∧
    (gaps.blank.contains (Text.viewChar unit) ∨ gaps.mark = some unit ∧ gaps.Marked name (pos + 1) ts)

variable {gaps name} {text : String} {pos : Nat} {ts us : List (Tag ν)}

theorem Marked.mono (h : ts ⊆ us) : gaps.Marked name pos ts → gaps.Marked name pos us :=
  fun ⟨t, ht, hm⟩ => ⟨t, h ht, hm⟩

theorem Allows.mono (h : ts ⊆ us) : gaps.Allows name text pos ts → gaps.Allows name text pos us :=
  fun ⟨unit, hu, hg⟩ => ⟨unit, hu, hg.imp_right fun ⟨hm, ht⟩ => ⟨hm, ht.mono h⟩⟩

theorem Allows.map {μ : Type} {name' : μ → String} {f : ν → μ} {g : Nat → Nat}
    (hf : ∀ n, name' (f n) = name n) (hg : ∀ t ∈ ts, g t.index = t.index) :
    gaps.Allows name text pos ts → gaps.Allows name' text pos (ts.map (Tag.map f g)) := by
  rintro ⟨unit, hu, hb | ⟨hm, t, ht, hpos, hn⟩⟩
  · exact ⟨unit, hu, Or.inl hb⟩
  · exact ⟨unit, hu, Or.inr ⟨hm, t.map f g, List.mem_map_of_mem ht, by rw [Tag.index_map, hg t ht, hpos],
      by rwa [Tag.name_map, hf]⟩⟩

end Gaps

namespace Graph

variable (g : Graph) (gaps : Gaps)

/-- Whether a match of the node at a position starts with a tag that may follow a mark, if those of the
    nodes `ids` do. -/
def marks (ids : List Nat) (id : Nat) : Bool :=
  (g.node? id).all fun node =>
    match node.step with
    | .applyTag tag => gaps.marked (g.tags.name tag)
    | .state _ => !node.transitions.isEmpty && node.transitions.all ids.contains
    | .subState target r =>
      decide (0 < r.min.toNat) && !Attempt.atMax r 0 && (g.entryOf target).all ids.contains
    | .literal _ _ | .unicode _ _ | .regex _ _ => false

/-- Whether the tags of the node at a position leave out only what they may, if those of the nodes `ids`
    do. -/
def covers (ids : List Nat) (id : Nat) : Bool :=
  (g.node? id).all fun node =>
    match node.step with
    | .applyTag _ => g.consuming.contains id
    | .state _ => node.transitions.all ids.contains
    | .literal _ units => node.transitions.all ids.contains &&
      (units.isEmpty || units == gaps.mark.toList && !node.transitions.isEmpty &&
        node.transitions.all (g.passing (marks g gaps)).contains)
    | .unicode _ _ => false
    | .regex pattern _ => (Regex.parse? (Text.view pattern)).any (·.onlyTakes gaps.blank) &&
      node.transitions.all ids.contains
    | .subState target _ => (g.entryOf target).all ids.contains && node.transitions.all ids.contains

/-- The nodes of which it is found that their tags leave out only what they may. -/
def covering : List Nat :=
  g.passing (g.covers gaps)

end Graph

namespace Attempt

variable {a : Attempt} {gaps : Gaps} {node : GraphNode}

section
variable {ids : List Nat} {go : Nat → Nat → Nat → Result}
  (hgo : ∀ id ∈ ids, ∀ {pos t m}, (go id pos t).verdict = .matched m →
    gaps.Marked a.graph.tags.name pos m.tags)
include hgo

theorem marked_of_transitions (hne : node.transitions.isEmpty = false)
    (hids : node.transitions.all ids.contains) {pos ticks : Nat} {m : Partial}
    (h : (transitions go node pos ticks).verdict = .matched m) :
    gaps.Marked a.graph.tags.name pos m.tags := by
  rcases matched_of_transitions h with ⟨hempty, -⟩ | ⟨next, hmem, t, h⟩
  · rw [hempty] at hne; cases hne
  · exact hgo next (by simpa using List.all_eq_true.1 hids next hmem) h

theorem marked_of_perform {id : Nat} (hid : a.graph.marks gaps ids id) {pos ticks : Nat} {m : Partial}
    (h : (a.perform go id pos ticks).verdict = .matched m) :
    gaps.Marked a.graph.tags.name pos m.tags := by
  cases hn : a.graph.node? id with
  | none => rw [perform_of_none hn] at h; cases h
  | some node =>
    rw [Graph.marks, hn, Option.all_some] at hid
    cases hstep : node.step with
    | state name =>
      rw [perform_state hn hstep] at h
      simp only [hstep, Bool.and_eq_true, Bool.not_eq_true'] at hid
      exact marked_of_transitions hgo hid.1 hid.2 h
    | applyTag tag =>
      rw [perform_applyTag hn hstep] at h
      rcases Result.bind_eq_matched.1 h with ⟨p, -, h⟩ | ⟨-, h⟩
      · cases h
        exact ⟨_, List.mem_singleton_self _, rfl, by simpa [hstep] using hid⟩
      · exact absurd (Result.mapFailure_eq_matched.1 h) giveUp_ne_matched
    | subState target r =>
      cases he : a.graph.entryOf target with
      | none => rw [perform_undefined hn hstep he] at h; cases h
      | some entry =>
        rw [perform_subState hn hstep he] at h
        simp only [hstep, he, Option.all_some, Bool.and_eq_true, decide_eq_true_eq,
          Bool.not_eq_true', List.contains_iff_mem] at hid
        obtain ⟨⟨hmin, hmax⟩, hentry⟩ := hid
        -- the first round is needed, and its tags come first
        cases hf : a.rounds r with
        | zero => rw [hf] at h; cases h
        | succ fuel =>
          rw [hf] at h
          rcases matched_of_loop h with ⟨hleave, -⟩ | ⟨-, p, t, q, -, hp, -, rfl⟩
          · rw [hmax] at hleave
            rcases hleave with hleave | hleave
            · omega
            · cases hleave
          · exact (hgo entry hentry hp).mono (List.subset_append_left _ _)
    | _ => simp [hstep] at hid

end

theorem marked_of_visit {ids : List Nat} (hids : ∀ id ∈ ids, a.graph.marks gaps ids id) :
    ∀ levels, ∀ id ∈ ids, ∀ {pos ticks m}, (a.visit levels id pos ticks).verdict = .matched m →
      gaps.Marked a.graph.tags.name pos m.tags
  | 0, _, _, _, _, _, h => by
    obtain ⟨_, _, hl, -⟩ := matched_of_visit h
    cases hl
  | levels + 1, id, hid, _, _, _, h => by
    obtain ⟨_, _, hl, h⟩ := matched_of_visit h
    cases hl
    exact marked_of_perform (marked_of_visit hids levels) (hids id hid) h

/-! ## What tags leave out -/

section
variable {text : String} (hs : a.source = Source.ofText text)
include hs

theorem allows_of_regex {pattern : String} {regex : Regex} (hr : regex.onlyTakes gaps.blank)
    {pos n : Nat} (h : a.taken pos (.regex pattern regex.matcher) = some n) (ts : List (Tag Nat)) :
    ∀ i, pos ≤ i → i < pos + n → gaps.Allows a.graph.tags.name text i ts := by
  intro i hlo hhi
  have hleft := taken_le hs h
  rw [left, hs, Source.length_ofText] at hleft
  have hi : i < (Text.units text).length := by omega
  obtain ⟨rest, hv, hm⟩ := Option.bind_eq_some_iff.1 h
  rw [hs, Source.viewFrom_ofText, if_pos (by omega)] at hv
  cases hv
  refine ⟨(Text.units text)[i], List.getElem?_eq_getElem hi, Or.inl ?_⟩
  refine Regex.matchLength_onlyTakes hr hm _ (List.mem_iff_getElem?.2 ⟨i - pos, ?_⟩)
  rw [List.getElem?_take_of_lt (by omega), List.getElem?_drop, Nat.add_sub_cancel' hlo, Text.view,
    List.getElem?_map, List.getElem?_eq_getElem hi, Option.map_some]

theorem allows_of_literal {literal : String} {units : List UInt16} (hu : units = gaps.mark.toList)
    {pos n : Nat} (h : a.taken pos (.literal literal units) = some n) {ts : List (Tag Nat)}
    (ht : gaps.Marked a.graph.tags.name (pos + n) ts) :
    ∀ i, pos ≤ i → i < pos + n → gaps.Allows a.graph.tags.name text i ts := by
  intro i hlo hhi
  simp only [taken, hs, Option.ite_none_right_eq_some, Option.some.injEq] at h
  obtain ⟨hunits, rfl⟩ := h
  obtain ⟨-, rest, hrest⟩ := (Source.hasUnitsAt_ofText text).1 hunits
  cases hmark : gaps.mark with
  | none => rw [hu, hmark] at hhi; exact absurd hhi (by simpa using hlo)
  | some unit =>
    rw [hmark, Option.toList_some] at hu
    subst hu
    obtain rfl : i = pos := by simp at hhi; omega
    refine ⟨unit, ?_, Or.inr ⟨hmark, ht⟩⟩
    rw [← Nat.add_zero i, ← List.getElem?_drop, ← hrest]
    rfl

section
variable {ids : List Nat} {go : Nat → Nat → Nat → Result}
  (hgo : ∀ id ∈ ids, ∀ {pos t m}, (go id pos t).verdict = .matched m →
    Tag.Covers (gaps.Allows a.graph.tags.name text) pos (pos + m.len) m.tags)
include hgo

omit hs in
theorem covers_of_transitions (hids : node.transitions.all ids.contains) {pos ticks : Nat} {m : Partial}
    (h : (transitions go node pos ticks).verdict = .matched m) :
    Tag.Covers (gaps.Allows a.graph.tags.name text) pos (pos + m.len) m.tags := by
  rcases matched_of_transitions h with ⟨-, rfl⟩ | ⟨next, hmem, t, h⟩
  · exact Tag.covers_nil
  · exact hgo next (by simpa using List.all_eq_true.1 hids next hmem) h

omit hs in
/-- Transitions after units that may be left out before their tags. -/
theorem covers_of_advance {id : Nat} (hids : node.transitions.all ids.contains) {pos n ticks : Nat}
    {m : Partial} (h : (a.advance go id node pos n ticks).verdict = .matched m)
    (hgap : ∀ {p}, (transitions go node (pos + n) ticks).verdict = .matched p →
      ∀ i, pos ≤ i → i < pos + n → gaps.Allows a.graph.tags.name text i p.tags) :
    Tag.Covers (gaps.Allows a.graph.tags.name text) pos (pos + m.len) m.tags := by
  obtain ⟨p, hp, rfl⟩ := matched_of_advance h
  have hcovers := (covers_of_transitions hgo hids hp).before (hgap hp)
  rwa [Nat.add_right_comm, Nat.add_assoc] at hcovers

omit hs hgo in
/-- The rounds of an invocation, by induction on their number. -/
theorem covers_of_loop {id start : Nat} {r : Repetition} {round leave : Nat → Nat → Result}
    (hround : ∀ {at_ t m}, (round at_ t).verdict = .matched m →
      Tag.Covers (gaps.Allows a.graph.tags.name text) at_ (at_ + m.len) m.tags)
    (hleave : ∀ {at_ t m}, (leave at_ t).verdict = .matched m →
      Tag.Covers (gaps.Allows a.graph.tags.name text) at_ (at_ + m.len) m.tags) :
    ∀ {fuel count at_ ticks m},
      (a.loop id node r start round leave fuel count at_ ticks).verdict = .matched m →
      Tag.Covers (gaps.Allows a.graph.tags.name text) at_ (at_ + m.len) m.tags
  | fuel + 1, count, at_, ticks, m, h => by
    rcases matched_of_loop h with ⟨-, t, h⟩ | ⟨-, p, t, q, t', hp, hq, rfl⟩
    · exact hleave h
    · rw [Partial.after, ← Nat.add_assoc]
      exact (hround hp).append (fun _ _ _ => Gaps.Allows.mono) (covers_of_loop hround hleave hq)

theorem covers_of_perform (hg : a.graph.CompiledBy Regex.engine) {id : Nat}
    (hid : a.graph.covers gaps ids id) {pos ticks : Nat} {m : Partial}
    (hpos : id ∈ a.graph.consuming → 0 < m.len)
    (hmark : ∀ id ∈ a.graph.passing (a.graph.marks gaps), ∀ {pos t m},
      (go id pos t).verdict = .matched m → gaps.Marked a.graph.tags.name pos m.tags)
    (h : (a.perform go id pos ticks).verdict = .matched m) :
    Tag.Covers (gaps.Allows a.graph.tags.name text) pos (pos + m.len) m.tags := by
  cases hn : a.graph.node? id with
  | none => rw [perform_of_none hn] at h; cases h
  | some node =>
    rw [Graph.covers, hn, Option.all_some] at hid
    cases hstep : node.step with
    | state name =>
      rw [perform_state hn hstep] at h
      simp only [hstep] at hid
      exact covers_of_transitions hgo hid h
    | applyTag tag =>
      rw [perform_applyTag hn hstep] at h
      rcases Result.bind_eq_matched.1 h with ⟨p, -, h⟩ | ⟨-, h⟩
      · cases h
        exact Tag.covers_singleton (hpos (by simpa [hstep] using hid))
      · exact absurd (Result.mapFailure_eq_matched.1 h) giveUp_ne_matched
    | subState target r =>
      cases he : a.graph.entryOf target with
      | none => rw [perform_undefined hn hstep he] at h; cases h
      | some entry =>
        rw [perform_subState hn hstep he] at h
        simp only [hstep, he, Option.all_some, Bool.and_eq_true, List.contains_iff_mem] at hid
        exact covers_of_loop (hgo entry hid.1) (covers_of_transitions hgo hid.2) h
    | unicode min max => simp [hstep] at hid
    | literal text' units =>
      rw [perform_matcher hn (by rw [hstep]; rfl), hstep] at h
      cases htaken : a.taken pos (.literal text' units) with
      | none => rw [htaken] at h; cases h
      | some n =>
        rw [htaken] at h
        simp only [hstep, Bool.and_eq_true, Bool.or_eq_true, Bool.not_eq_true', beq_iff_eq] at hid
        obtain ⟨hids, hempty | ⟨⟨hu, hne⟩, hmarks⟩⟩ := hid
        · -- an empty literal takes nothing
          have hn : n = 0 := by
            simp only [taken, Option.ite_none_right_eq_some, Option.some.injEq] at htaken
            rw [← htaken.2, List.isEmpty_iff.1 hempty]; rfl
          exact covers_of_advance hgo hids h fun _ i hlo hhi => absurd hhi (by omega)
        · exact covers_of_advance hgo hids h fun hp =>
            allows_of_literal hs hu htaken (marked_of_transitions hmark hne hmarks hp)
    | regex pattern matcher =>
      obtain ⟨regex, hregex, rfl⟩ := parse?_of_compiledBy (hstep ▸ hg id node hn)
      rw [perform_matcher hn (by rw [hstep]; rfl), hstep] at h
      cases htaken : a.taken pos (.regex pattern regex.matcher) with
      | none => rw [htaken] at h; cases h
      | some n =>
        rw [htaken] at h
        simp only [hstep, hregex, Option.any_some, Bool.and_eq_true] at hid
        exact covers_of_advance hgo hid.2 h fun _ => allows_of_regex hs hid.1 htaken _

end

/-- **The tags of a node that covers leave out only what they may**, by induction on the levels to
    spare. -/
theorem covers_of_visit (hg : a.graph.CompiledBy Regex.engine) :
    ∀ levels, ∀ id ∈ a.graph.covering gaps, ∀ {pos ticks m},
      (a.visit levels id pos ticks).verdict = .matched m →
      Tag.Covers (gaps.Allows a.graph.tags.name text) pos (pos + m.len) m.tags
  | 0, _, _, _, _, _, h => by
    obtain ⟨_, _, hl, -⟩ := matched_of_visit h
    cases hl
  | levels + 1, id, hid, pos, ticks, m, hm => by
    obtain ⟨_, t, hl, h⟩ := matched_of_visit hm
    cases hl
    refine covers_of_perform hs (covers_of_visit hg levels) hg (Graph.test_of_mem_passing id hid) (fun hc => ?_)
      (marked_of_visit Graph.test_of_mem_passing levels) h
    have htakes := takes_of_visit (a := a) hg a.graph.consuming_consuming (levels + 1) id hc pos ticks
    rwa [hm] at htakes

end

end Attempt

end GraphLexer
