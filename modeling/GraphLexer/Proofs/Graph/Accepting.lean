/-
A check that finds nodes that are not rejected before the end of the input.

A node accepts if one of its transitions does, if it takes whatever character comes next, or if it is
committed and does not reject before it has tried its transitions: it then matches or fails. Which nodes
accept depends on which other nodes do, so they are found by dropping nodes, as for `consuming`. No visit
of them before the end of the input is a rejection, by induction on the levels to spare
(`not_rejected_of_visit`).
-/
import GraphLexer.Proofs.Attempt.Inversion
import GraphLexer.Proofs.Graph.Consuming
import GraphLexer.Proofs.Pattern.Chars

namespace GraphLexer

namespace Graph

variable (g : Graph)

/-- Whether the transitions of a node are not all rejected before the end, if the nodes `ids` are not. -/
def transitionsAccept (ids : List Nat) (node : GraphNode) : Bool :=
  node.transitions.isEmpty || node.transitions.any ids.contains

/-- Whether the node at a position is not rejected before the end, if the nodes `ids` are not. -/
def accepts (ids : List Nat) (id : Nat) : Bool :=
  (g.node? id).any fun node =>
    match node.step with
    | .state _ => transitionsAccept ids node
    | .applyTag _ => node.commit || transitionsAccept ids node
    | .regex pattern _ => decide (Regex.parse? (Text.view pattern) = some (.chars .all)) &&
      (node.commit || node.transitions.isEmpty)
    | .subState target r => node.commit && r.max.all (r.min ≤ ·) &&
      (r.min == 0 || (g.entryOf target).all ids.contains)
    | .literal _ _ | .unicode _ _ => false

/-- The nodes of which it is found that they are not rejected before the end. -/
def accepting : List Nat :=
  g.passing g.accepts

end Graph

namespace Attempt

variable {a : Attempt} {node : GraphNode} {ids : List Nat} {go : Nat → Nat → Nat → Result} {pos : Nat}

section
variable (hgo : ∀ id ∈ ids, ∀ t, (go id pos t).verdict ≠ .rejected)
include hgo

theorem not_rejected_of_transitions (h : Graph.transitionsAccept ids node) {ticks : Nat} :
    (transitions go node pos ticks).verdict ≠ .rejected := by
  intro hr
  obtain ⟨hne, hr⟩ := rejected_of_transitions hr
  rcases Bool.or_eq_true_iff.1 h with h | h
  · exact hne (by simpa using h)
  · obtain ⟨next, hmem, hids⟩ := List.any_eq_true.1 h
    obtain ⟨t, hr⟩ := hr next hmem
    exact hgo next (by simpa using hids) t hr

end

theorem min_le_of_atMax {r : Repetition} (h : r.max.all (r.min ≤ ·)) {count : Nat}
    (hmax : atMax r count = true) : r.min.toNat ≤ count := by
  unfold atMax at hmax
  split at hmax
  · next max hm =>
    simp only [hm, Option.all_some, decide_eq_true_eq, UInt32.le_iff_toNat_le] at h hmax
    exact Nat.le_trans h hmax
  · cases hmax

section
variable {id start : Nat} {r : Repetition} {round leave : Nat → Nat → Result}
  (hc : node.commit = true) (hmax : r.max.all (r.min ≤ ·))
include hc hmax

/-- A committed loop that has made a round, and may make as many as it must, is not rejected. -/
theorem not_rejected_of_rounds : ∀ {fuel count at_ ticks}, 0 < count →
    (a.loop id node r start round leave fuel count at_ ticks).verdict ≠ .rejected
  | 0, _, _, _, _, h => by cases h
  | fuel + 1, count, _, _, hcount, h => by
    rcases rejected_of_loop hc h with ⟨h, hmin⟩ | ⟨h, -⟩ | ⟨_, _, h⟩
    · exact Nat.not_lt.2 (min_le_of_atMax hmax h) hmin
    · exact Nat.ne_of_gt hcount h
    · exact not_rejected_of_rounds (Nat.succ_pos count) h

/-- Nor is one whose first round is not needed, or not rejected. -/
theorem not_rejected_of_loop (hfirst : r.min = 0 ∨ ∀ t, (round pos t).verdict ≠ .rejected)
    {fuel ticks : Nat} : (a.loop id node r start round leave fuel 0 pos ticks).verdict ≠ .rejected := by
  intro h
  cases fuel with
  | zero => cases h
  | succ fuel =>
    rcases rejected_of_loop hc h with ⟨h, hmin⟩ | ⟨-, hmin, t, ht⟩ | ⟨_, _, h⟩
    · exact Nat.not_lt.2 (min_le_of_atMax hmax h) hmin
    · rcases hfirst with hzero | hround
      · rw [hzero] at hmin
        exact absurd hmin (by decide)
      · exact hround t ht
    · exact not_rejected_of_rounds hc hmax (Nat.succ_pos 0) h

end

/-- A pattern for any character takes the next one. -/
theorem taken_any {text pattern : String} (hs : a.source = Source.ofText text)
    (hpos : pos < a.source.length) : a.taken pos (.regex pattern (Regex.chars .all).matcher) = some 1 := by
  rw [hs] at hpos
  rw [taken, hs, Source.viewFrom_ofText, ← Source.length_ofText, if_pos (Nat.le_of_lt hpos),
    Option.bind_some]
  cases hview : (Text.view text).drop pos with
  | nil =>
    rw [List.drop_eq_nil_iff, Text.view, List.length_map, ← Source.length_ofText] at hview
    omega
  | cons c rest => exact Regex.matchLength_chars.trans (if_pos (CharSet.contains_all c))

theorem not_rejected_of_perform (hgo : ∀ id ∈ ids, ∀ t, (go id pos t).verdict ≠ .rejected)
    (hg : a.graph.CompiledBy Regex.engine) {text : String} (hs : a.source = Source.ofText text)
    (hpos : pos < a.source.length) {id : Nat} (hid : a.graph.accepts ids id) {ticks : Nat} :
    (a.perform go id pos ticks).verdict ≠ .rejected := by
  intro hr
  obtain ⟨node, hn, hid⟩ := (Option.any_eq_true _ _).1 hid
  cases hstep : node.step with
  | state name =>
    rw [perform_state hn hstep] at hr
    simp only [hstep] at hid
    exact not_rejected_of_transitions hgo hid hr
  | applyTag tag =>
    rw [perform_applyTag hn hstep] at hr
    simp only [hstep, Bool.or_eq_true] at hid
    rcases Result.bind_eq_rejected.1 hr with ⟨p, -, h⟩ | ⟨ht, h⟩
    · cases h
    · rcases hid with hc | hid
      · rw [commit_of_giveUp (Result.mapFailure_eq_rejected.1 h)] at hc
        cases hc
      · exact not_rejected_of_transitions hgo hid ht
  | subState target r =>
    simp only [hstep, Bool.and_eq_true, Bool.or_eq_true, beq_iff_eq] at hid
    obtain ⟨⟨hc, hmax⟩, hfirst⟩ := hid
    cases he : a.graph.entryOf target with
    | none => rw [perform_undefined hn hstep he] at hr; cases hr
    | some entry =>
      rw [perform_subState hn hstep he] at hr
      exact not_rejected_of_loop hc hmax (hfirst.imp_right fun h => hgo entry (by simpa [he] using h)) hr
  | regex pattern matcher =>
    simp only [hstep, Bool.and_eq_true, Bool.or_eq_true, decide_eq_true_eq] at hid
    obtain ⟨hall, hid⟩ := hid
    obtain ⟨regex, hregex, rfl⟩ := parse?_of_compiledBy (hstep ▸ hg id node hn)
    obtain rfl : regex = .chars .all := Option.some.inj (hregex.symm.trans hall)
    rw [perform_matcher hn (by rw [hstep]; rfl), hstep, taken_any hs hpos] at hr
    obtain ⟨ht, hc⟩ := rejected_of_advance hr
    rw [hc] at hid
    exact (rejected_of_transitions ht).1 (by simpa using hid)
  | literal | unicode => simp [hstep] at hid

/-- **No visit of a node that accepts is a rejection before the end of the input**, by induction on the
    levels to spare. -/
theorem not_rejected_of_visit (hg : a.graph.CompiledBy Regex.engine) {text : String}
    (hs : a.source = Source.ofText text) (hpos : pos < a.source.length) :
    ∀ levels, ∀ id ∈ a.graph.accepting, ∀ ticks, (a.visit levels id pos ticks).verdict ≠ .rejected
  | 0, _, _, _, h => by
    obtain ⟨_, _, hl, -⟩ := rejected_of_visit h
    cases hl
  | levels + 1, id, hid, _, h => by
    obtain ⟨_, _, hl, h⟩ := rejected_of_visit h
    cases hl
    exact not_rejected_of_perform (not_rejected_of_visit hg hs hpos levels) hg hs hpos
      (Graph.test_of_mem_passing id hid) h

end Attempt

end GraphLexer
