/-
The numbers in matches and failures have names.

An attempt takes the numbers of tags and states from the nodes that it visits, so if the numbers of all
nodes are in use in the tables of the graph, then so are those of the tags of a match and of the stacks of
a failure.
-/
import GraphLexer.Proofs.Attempt.Invariant
import GraphLexer.Proofs.Graph.Layout
import GraphLexer.Proofs.Tag.Maps

namespace GraphLexer.Attempt

/-- A verdict whose numbers have names. -/
def Named (a : Attempt) (pos : Nat) : Verdict → Prop
  | .matched p => p.len ≤ a.left pos ∧ ∀ tag ∈ Tag.allNames p.tags, (a.graph.tags.name? tag).isSome
  | .failed f => (∀ tag ∈ f.tags, (a.graph.tags.name? tag).isSome) ∧
      ∀ state ∈ f.states, (a.graph.states.name? state).isSome
  | .rejected => True
  | .unfinished => True

variable {a : Attempt} (hres : ∀ id node, a.graph.node? id = some node → a.graph.Resolves node.step)
include hres

/-- A node adds its own number to a failure. -/
theorem named_record {id pos : Nat} {node : GraphNode} {f : Failure} (hn : a.graph.node? id = some node)
    (h : a.Named pos (.failed f)) : a.Named pos (.failed (record node.step f)) := by
  have hstep := hres id node hn
  obtain ⟨htags, hstates⟩ := h
  cases hs : node.step with
  | state name =>
    rw [hs] at hstep
    refine ⟨htags, fun state hmem => ?_⟩
    rcases List.mem_append.1 hmem with hmem | hmem
    · exact hstates state hmem
    · rwa [List.mem_singleton.1 hmem]
  | applyTag tag =>
    rw [hs] at hstep
    refine ⟨fun tag' hmem => ?_, hstates⟩
    rcases List.mem_append.1 hmem with hmem | hmem
    · exact htags tag' hmem
    · rwa [List.mem_singleton.1 hmem]
  | literal | unicode | regex | subState => exact ⟨htags, hstates⟩

theorem named_invariant : Invariant a (fun _ => True) a.Named where
  transition _ _ _ := trivial
  entry _ _ _ _ := trivial
  rejected := trivial
  unfinished := trivial
  empty := ⟨Nat.zero_le _, fun _ hmem => absurd hmem List.not_mem_nil⟩
  raised _ _ := ⟨fun _ hmem => absurd hmem List.not_mem_nil, fun _ hmem => absurd hmem List.not_mem_nil⟩
  record _ hn hf := named_record hres hn hf
  tagged := by
    rintro id node tag pos p - hn hstep ⟨hlen, hnames⟩
    have htag := hres id node hn
    rw [hstep] at htag
    refine ⟨hlen, fun tag' hmem => ?_⟩
    rw [Tag.allNames, Tag.names, Tag.allNames, List.append_nil] at hmem
    rcases List.mem_cons.1 hmem with rfl | hmem
    · exact htag
    · exact hnames tag' hmem
  len_le hp := hp.1
  later _ hf := hf
  advance := by
    rintro pos n p hle ⟨hlen, hnames⟩
    refine ⟨?_, hnames⟩
    simp only [left] at *
    omega
  after := by
    rintro pos p q ⟨hp, hpnames⟩ ⟨hq, hqnames⟩
    refine ⟨?_, fun tag hmem => ?_⟩
    · simp only [left, Partial.after] at *
      omega
    · rw [Partial.after, Tag.allNames_append] at hmem
      exact (List.mem_append.1 hmem).elim (hpnames tag) (hqnames tag)

/-- The numbers in the verdict of a visit have names. -/
theorem visit_named {text : String} (hs : a.source = Source.ofText text) (levels id pos ticks : Nat) :
    a.Named pos (a.visit levels id pos ticks).verdict :=
  (named_invariant hres).visit hs trivial

end GraphLexer.Attempt
