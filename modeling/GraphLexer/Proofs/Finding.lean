/-
What is found about the references of a grammar.

The references to states that are not defined are found in the order in which they stand in the grammar
(`Graph.dangling_eq`), and the linter always comes to an end, so there are findings for every grammar that
has a graph. The walks list an undefined root under the empty name, which a state may have as well: a
reference in the tree of this state is reported as if it were the root. Everywhere else the findings are
the dangling references (`findings_references`).
-/
import GraphLexer.Finding
import GraphLexer.Proofs.Graph.Dangling
import GraphLexer.Proofs.Language.Termination

namespace GraphLexer

/-- Whether a finding is about the lowering of a grammar: its patterns are refused, or a state that it
    refers to is not defined. -/
def Finding.isReference : Finding → Bool
  | .build _ | .undefinedRoot _ | .undefinedState _ _ => true
  | .pattern _ _ _ => false

namespace Grammar

/-- The references of a grammar that dangle: its root, and then those of its states. -/
def danglingFindings (g : Grammar) : List Finding :=
  (if g.root ∈ g.stateNames then [] else [.undefinedRoot g.root]) ++
    g.unresolved.map fun (state, missing) => .undefinedState state missing

theorem exists_mapM {α β : Type} {f : α → Option β} {P : β → Prop} (h : ∀ a, ∃ b, f a = some b ∧ P b)
    (l : List α) : ∃ bs, l.mapM f = some bs ∧ ∀ b ∈ bs, P b := by
  induction l with
  | nil => exact ⟨[], rfl, fun _ hb => absurd hb List.not_mem_nil⟩
  | cons a l ih =>
    obtain ⟨b, hb, hp⟩ := h a
    obtain ⟨bs, hbs, hall⟩ := ih
    refine ⟨b :: bs, by rw [List.mapM_cons, hb, hbs]; rfl, ?_⟩
    rintro b' (_ | ⟨_, hb'⟩)
    · exact hp
    · exact hall b' hb'

theorem exists_patternFindings (t : Tree) :
    ∃ found, patternFindings t = some found ∧ ∀ finding ∈ found, finding.isReference = false := by
  have hissues : ∀ text, ∃ found : List Finding, ((Lint.checkPattern text).map fun issues =>
      issues.map (Finding.pattern (t.stateName?.getD "") text)) = some found ∧
        ∀ finding ∈ found, finding.isReference = false := by
    intro text
    obtain ⟨issues, hissues⟩ := Language.check_isSome (l := .regex) (by simp [Language.all]) text
    refine ⟨_, by rw [Lint.checkPattern, hissues]; rfl, fun finding hmem => ?_⟩
    obtain ⟨issue, -, rfl⟩ := List.mem_map.1 hmem
    rfl
  obtain ⟨founds, hfounds, hall⟩ := exists_mapM hissues t.patterns
  refine ⟨founds.flatten, by rw [patternFindings, hfounds]; rfl, fun finding hmem => ?_⟩
  obtain ⟨found, hfound, hmem⟩ := List.mem_flatten.1 hmem
  exact hall found hfound finding hmem

theorem exists_findings (g : Grammar) : ∃ found, g.findings = some (g.referenceFindings ++ found) ∧
    ∀ finding ∈ found, finding.isReference = false := by
  obtain ⟨founds, hfounds, hall⟩ := exists_mapM exists_patternFindings g.states
  refine ⟨founds.flatten, by rw [findings, hfounds]; rfl, fun finding hmem => ?_⟩
  obtain ⟨found, hfound, hmem⟩ := List.mem_flatten.1 hmem
  exact hall found hfound finding hmem

theorem isReference_of_mem {g : Grammar} : ∀ finding ∈ g.referenceFindings, finding.isReference = true := by
  intro finding hmem
  rw [referenceFindings] at hmem
  split at hmem
  · rw [List.mem_singleton.1 hmem]
    rfl
  · obtain ⟨⟨state, missing⟩, -, rfl⟩ := List.mem_map.1 hmem
    dsimp only
    split <;> rfl

theorem referenceFindings_eq {g : Grammar} {graph : Graph} (h : Graph.ofGrammar g = .ok graph) :
    g.referenceFindings = (if g.root ∈ g.stateNames then [] else [.undefinedRoot g.root]) ++
      g.unresolved.map fun (state, missing) =>
        if state = "" then .undefinedRoot missing else .undefinedState state missing := by
  rw [referenceFindings, h]
  dsimp only
  rw [Graph.dangling_eq h, List.map_append]
  simp only [String.isEmpty_iff]
  split <;> rfl

/-- **The findings about references are the dangling references**, in the order in which they stand in the
    grammar, except that those in the tree of the state with the empty name are reported as the root. So
    they are reported as they are exactly if no reference of this state dangles. -/
theorem findings_references {g : Grammar} {graph : Graph} (h : Graph.ofGrammar g = .ok graph) :
    ∃ found, g.findings = some found ∧
      (found.filter Finding.isReference =
        (if g.root ∈ g.stateNames then [] else [.undefinedRoot g.root]) ++
          g.unresolved.map fun (state, missing) =>
            if state = "" then .undefinedRoot missing else .undefinedState state missing) ∧
      (found.filter Finding.isReference = g.danglingFindings ↔
        ∀ missing, ("", missing) ∉ g.unresolved) := by
  obtain ⟨found, hfound, hpatterns⟩ := exists_findings g
  have hfilter : (g.referenceFindings ++ found).filter Finding.isReference = g.referenceFindings := by
    rw [List.filter_append, List.filter_eq_self.2 isReference_of_mem]
    exact List.append_right_eq_self.2 (List.filter_eq_nil_iff.2 fun f hf => by simp [hpatterns f hf])
  refine ⟨_, hfound, hfilter.trans (referenceFindings_eq h), ?_⟩
  rw [hfilter, referenceFindings_eq h, danglingFindings, List.append_cancel_left_eq, List.map_inj_left]
  constructor
  · intro hall missing hmem
    have := hall _ hmem
    simp at this
  · rintro hnone ⟨state, missing⟩ hmem
    refine if_neg ?_
    rintro rfl
    exact hnone missing hmem

/-- A state within a state, and references to states that are not defined in several places. -/
def scattered : Grammar where
  root := "R"
  states := [
    .plain (.state "T") [
      .plain (.state "Inner") [.plain (.subState "U" .once) [.plain (.subState "S" .once) []]],
      .plain (.subState "V" (.zeroOrMore true)) []],
    .plain (.state "S") [.committed (.applyTag "tag") [.plain (.subState "U" .once) []]]]
  named := by simp [Tree.plain, Tree.stateName?]
  distinct := by simp [Tree.plain, Tree.stateNames, Tree.stateName?]

/-- The root comes first. A state that is missing is reported wherever it is referred to, under the state
    that is defined. -/
theorem scattered_references : ∃ graph found, Graph.ofGrammar scattered = .ok graph ∧
    scattered.findings = some found ∧ found.filter Finding.isReference =
      [.undefinedRoot "R", .undefinedState "T" "U", .undefinedState "T" "V", .undefinedState "S" "U"] := by
  obtain ⟨found, hfound, -, hiff⟩ := findings_references (g := scattered) (Graph.ofGrammar_of_layout rfl)
  have hnone : ∀ missing, ("", missing) ∉ scattered.unresolved := by
    have hstates : ∀ u ∈ scattered.unresolved, u.1 ≠ "" := by decide +kernel
    exact fun missing hmem => hstates _ hmem rfl
  refine ⟨_, found, Graph.ofGrammar_of_layout rfl, hfound, (hiff.2 hnone).trans ?_⟩
  decide +kernel

def unnamed : Grammar where
  root := "S"
  states := [
    .plain (.state "S") [.plain (.subState "" .once) []],
    .plain (.state "") [.plain (.subState "U" .once) []]]
  named := by simp [Tree.plain, Tree.stateName?]
  distinct := by simp [Tree.plain, Tree.stateNames, Tree.stateName?]

/-- **A root that is defined is not reported, but a state that is missing is reported as the root.** -/
theorem unnamed_as_root : ∃ graph, Graph.ofGrammar unnamed = .ok graph ∧
    unnamed.root ∈ unnamed.stateNames ∧ unnamed.findings = some [.undefinedRoot "U"] ∧
    unnamed.danglingFindings = [.undefinedState "" "U"] :=
  ⟨_, rfl, by decide +kernel, by decide +kernel, by decide +kernel⟩

end Grammar

end GraphLexer
