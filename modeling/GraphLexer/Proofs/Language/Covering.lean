/-
What the bundled grammars leave out of a text.

The grammar of regular expressions leaves out nothing, and no part of a pattern is plainly rejected: the
tags stand one right after the other, and tokenizing goes on to the end of the pattern or fails. The
grammar of aya leaves out white space, and the colon before special numbers.
-/
import GraphLexer.Proofs.Evaluator.Accounting
import GraphLexer.Proofs.Evaluator.Covering
import GraphLexer.Proofs.Language.Termination

namespace GraphLexer

/-- Nothing may be left out. -/
def Gaps.none : Gaps :=
  ⟨.none, .none, fun _ => false⟩

theorem Gaps.not_none_allows {ν : Type} {name : ν → String} {text : String} (i : Nat)
    (ts : List (Tag ν)) : ¬ Gaps.none.Allows name text i ts := by
  rintro ⟨unit, -, h | ⟨h, -⟩⟩
  · cases h
  · cases h

def Regex.TakesUnit (pattern : String) (unit : UInt16) : Prop :=
  ∃ regex, Regex.parse? (Text.view pattern) = some regex ∧
    regex.matchLength [Text.viewChar unit] = some 1

namespace Language

/-- The graph of a language as the pass makes it, which is quicker to compute with. -/
theorem graph_eq (l : Language) :
    l.graph = (Graph.layout Regex.engine l.grammar).toOption.getD .empty := by
  rw [graph, Graph.ofGrammar, Graph.build_eq_layout]
  cases Graph.layout Regex.engine l.grammar <;> rfl

section
variable {l : Language} (hl : l ∈ all) {gaps : Gaps} {entry : Nat}
  (he : l.graph.entry l.graph.root = some entry)
include hl he

theorem covers_of_tokenize (hcovers : entry ∈ l.graph.covering gaps) {input : String} {t : Tokenized}
    (h : l.tokenize input = some t) : Tag.Forest 0 t.matchedLen t.tags ∧
      Tag.Covers (gaps.Allows id input) 0 t.matchedLen t.tags :=
  Evaluator.covers_of_evaluateAll (e := l.evaluator) (Graph.compiledBy_build (graph_of_mem hl).1) he
    hcovers h

/-- Tokenizing does not end with a rejection, and the linter finds failures only. -/
theorem complete_or_failed_of_tokenize (haccepts : entry ∈ l.graph.accepting)
    (hconsumes : entry ∈ l.graph.consuming) (input : String) :
    (∀ t, l.tokenize input = some t → t.isComplete = true ∨ t.lastError.isSome) ∧
      ∀ issues, Lint.check l input = some issues →
        ∀ issue ∈ issues, ∃ offset error, issue = .failed offset error :=
  have hend : ∀ input t, l.evaluator.evaluateAll input = some t →
      t.isComplete = true ∨ t.lastError.isSome :=
    fun _ _ => Evaluator.complete_or_failed (e := l.evaluator)
      (Graph.compiledBy_build (graph_of_mem hl).1) he haccepts hconsumes
  ⟨hend input, fun _ => Lint.failed_of_issuesFrom hend⟩

end

/-! ## Regular expressions -/

theorem regex_root : ∃ entry, regex.graph.entry regex.graph.root = some entry ∧
    entry ∈ regex.graph.covering .none ∧ entry ∈ regex.graph.accepting ∧
    entry ∈ regex.graph.consuming := by
  have h : ((regex.graph.entry regex.graph.root).any fun entry =>
      (regex.graph.covering .none).contains entry && (regex.graph.accepting.contains entry &&
        regex.graph.consuming.contains entry)) = true := by
    rw [graph_eq]
    decide +kernel
  obtain ⟨entry, he, h⟩ := (Option.any_eq_true _ _).1 h
  simp only [Bool.and_eq_true, List.contains_iff_mem] at h
  exact ⟨entry, he, h⟩

/-- **The grammar of regular expressions covers every pattern**: it is matched up to its end or up to a
    failure, and the tags stand one after the other on all that is matched. -/
theorem regex_tiles (input : String) : ∃ t, regex.tokenize input = some t ∧
    (t.isComplete = true ↔ t.matchedLen = Text.length input) ∧
    (t.isComplete = true ∨ t.lastError.isSome) ∧ t.exitCode ≠ 1 ∧
    Tag.Tiles 0 t.matchedLen t.tags ∧
    ∃ issues, Lint.checkPattern input = some issues ∧
      ∀ issue ∈ issues, ∃ offset error, issue = .failed offset error := by
  obtain ⟨entry, he, hcovers, haccepts, hconsumes⟩ := regex_root
  obtain ⟨t, ht⟩ := tokenize_isSome (l := regex) (by simp [all]) input
  obtain ⟨issues, hissues⟩ := check_isSome (l := regex) (by simp [all]) input
  obtain ⟨hforest, htags⟩ := covers_of_tokenize (l := regex) (by simp [all]) he hcovers ht
  obtain ⟨htoken, hlint⟩ :=
    complete_or_failed_of_tokenize (l := regex) (by simp [all]) he haccepts hconsumes input
  have hend := htoken t ht
  refine ⟨t, ht, Evaluator.isComplete_iff ht, hend, ?_, ?_, issues, hissues, hlint issues hissues⟩
  · rw [Tokenized.exitCode]
    split
    · decide
    · next herror =>
      have hcomplete := hend.resolve_right herror
      rw [Tokenized.isComplete, Option.isNone_iff_eq_none] at hcomplete
      rw [hcomplete]
      decide
  · exact htags.tiles Gaps.not_none_allows (Nat.zero_le _) hforest

def spans (t : Tokenized) : List (String × Nat × Nat) :=
  t.tags.map fun tag => (tag.name, tag.index, tag.len)

/-- A group that is not closed ends an answer after a character of two units, each with a tag. A class
    with a quantifier is matched up to its end. -/
theorem group_tiles :
    (∃ t, regex.tokenize "a+😀(c" = some t ∧ t.isComplete = false ∧ t.lastError.isSome ∧
      spans t = [("Literal", 0, 1), ("Quantifier", 1, 1), ("Literal", 2, 1), ("Literal", 3, 1)] ∧
      Tag.Tiles 0 4 t.tags) ∧
    ∃ t, regex.tokenize "[a]+" = some t ∧ t.isComplete = true ∧ t.matchedLen = Text.length "[a]+" ∧
      spans t = [("CharacterClass", 0, 3), ("Quantifier", 3, 1)] ∧ Tag.Tiles 0 4 t.tags := by
  have hgroup : (regex.tokenize "a+😀(c").map (fun t => (t.isComplete, t.matchedLen, spans t)) =
      some (false, 4, [("Literal", 0, 1), ("Quantifier", 1, 1), ("Literal", 2, 1), ("Literal", 3, 1)]) := by
    rw [tokenize, evaluator, graph_eq]
    decide +kernel
  have hclass : (regex.tokenize "[a]+").map (fun t => (t.isComplete, spans t)) =
      some (true, [("CharacterClass", 0, 3), ("Quantifier", 3, 1)]) := by
    rw [tokenize, evaluator, graph_eq]
    decide +kernel
  obtain ⟨t, ht, -, hend, -, htiles, -⟩ := regex_tiles "a+😀(c"
  obtain ⟨u, hu, hcomplete, -, -, htiles', -⟩ := regex_tiles "[a]+"
  rw [ht] at hgroup
  rw [hu] at hclass
  simp only [Option.map_some, Option.some.injEq, Prod.mk.injEq] at hgroup hclass
  obtain ⟨hopen, hlen, hspans⟩ := hgroup
  obtain ⟨hwhole, hspans'⟩ := hclass
  have hlen' := hcomplete.1 hwhole
  refine ⟨⟨t, ht, hopen, hend.resolve_left (by rw [hopen]; decide), hspans, hlen ▸ htiles⟩,
    u, hu, hwhole, hlen', hspans', ?_⟩
  rw [hlen'] at htiles'
  exact htiles'

/-! ## Aya -/

/-- White space, and a colon before special numbers. -/
def ayaGaps : Gaps where
  blank := .table Unicode.space
  mark := some (UInt16.ofNat ':'.toNat)
  marked name := "num_".toList.isPrefixOf name.toList

/-- What may stand anywhere is what matches the pattern of white space. -/
theorem takesUnit_of_blank {unit : UInt16} (h : ayaGaps.blank.contains (Text.viewChar unit)) :
    Regex.TakesUnit "\\s" unit := by
  refine ⟨.chars (.table Unicode.space), by decide +kernel, ?_⟩
  rw [Regex.matchLength_chars]
  exact if_pos h

theorem aya_root : ∃ entry, aya.graph.entry aya.graph.root = some entry ∧
    entry ∈ aya.graph.covering ayaGaps := by
  have h : ((aya.graph.entry aya.graph.root).any (aya.graph.covering ayaGaps).contains) = true := by
    rw [graph_eq]
    decide +kernel
  obtain ⟨entry, he, h⟩ := (Option.any_eq_true _ _).1 h
  exact ⟨entry, he, List.contains_iff_mem.1 h⟩

/-- **The grammar of aya leaves out white space only**, and the colon before a special number. -/
theorem aya_leavesOut_space (input : String) : ∃ t, aya.tokenize input = some t ∧
    (t.isComplete = true ↔ t.matchedLen = Text.length input) ∧
    (∀ tag ∈ t.tags, 0 < tag.len) ∧
    ∀ i < t.matchedLen, t.tags.countP (fun tag => tag.Spans i) = 1 ∨
      ∃ unit, (Text.units input)[i]? = some unit ∧
        (Regex.TakesUnit "\\s" unit ∨ unit = UInt16.ofNat ':'.toNat ∧
          ∃ tag ∈ t.tags, tag.index = i + 1 ∧ "num_".toList <+: tag.name.toList) := by
  obtain ⟨entry, he, hcovers⟩ := aya_root
  obtain ⟨t, ht⟩ := tokenize_isSome (l := aya) (by simp [all]) input
  obtain ⟨hforest, htags⟩ := covers_of_tokenize (l := aya) (by simp [all]) he hcovers ht
  refine ⟨t, ht, Evaluator.isComplete_iff ht, htags.pos, fun i hi => ?_⟩
  refine (htags.countP_spans hforest (Nat.zero_le i) hi).imp_right ?_
  rintro ⟨unit, hu, hblank | ⟨hmark, tag, hmem, hindex, hname⟩⟩
  · exact ⟨unit, hu, Or.inl (takesUnit_of_blank hblank)⟩
  · refine ⟨unit, hu, Or.inr ⟨(Option.some.inj hmark).symm, tag, hmem, hindex, ?_⟩⟩
    exact List.isPrefixOf_iff_prefix.1 hname

theorem number_leavesOut : ∃ t, aya.tokenize " :1e3" = some t ∧ t.isComplete = true ∧
    t.matchedLen = Text.length " :1e3" ∧ spans t = [("num_sci", 2, 3)] ∧
    ∀ i < 5, t.tags.countP (fun tag => tag.Spans i) = 1 ∨
      ∃ unit, (Text.units " :1e3")[i]? = some unit ∧
        (Regex.TakesUnit "\\s" unit ∨ unit = UInt16.ofNat ':'.toNat ∧
          ∃ tag ∈ t.tags, tag.index = i + 1 ∧ "num_".toList <+: tag.name.toList) := by
  have hnumber : (aya.tokenize " :1e3").map (fun t => (t.isComplete, spans t)) =
      some (true, [("num_sci", 2, 3)]) := by
    rw [tokenize, evaluator, graph_eq]
    decide +kernel
  obtain ⟨t, ht, hcomplete, -, hleft⟩ := aya_leavesOut_space " :1e3"
  rw [ht] at hnumber
  simp only [Option.map_some, Option.some.injEq, Prod.mk.injEq] at hnumber
  obtain ⟨hwhole, hspans⟩ := hnumber
  have hlen := hcomplete.1 hwhole
  exact ⟨t, ht, hwhole, hlen, hspans, fun i hi => hleft i (hlen ▸ hi)⟩

end Language

end GraphLexer
