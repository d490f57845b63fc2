/-
The linter ends, and what issues it finds.

After a stop the linter goes on with fewer characters (`length_of_resume`), so it makes no more steps
than there are characters, and its bound on steps plays no part (`issuesFrom_fuel`). It has an answer
where all evaluations have one (`issuesFrom_isSome`), and finds failures only where all evaluations that
stop do so with a failure (`failed_of_issuesFrom`).
-/
import GraphLexer.Lint
import GraphLexer.Proofs.Text.Bytes

namespace GraphLexer.Lint

variable {e : Evaluator} {rest left : List Char}

/-- What is left after a stop is shorter. -/
theorem length_of_resume {matched units : Nat} (hne : rest ≠ [])
    (h : resume rest matched = some (units, left)) : left.length < rest.length := by
  obtain ⟨front, back, rfl, hback, hb⟩ := boundaryFrom_spec matched rest 0 0
  simp only [Nat.zero_add] at hback hb
  simp only [resume, hb, dropBytes_append] at h
  rw [List.length_append]
  split at h
  · cases back with
    | nil => cases h
    | cons c back => cases h; rw [List.length_cons]; omega
  · next hunits =>
    cases h
    -- a boundary before all characters would be at the stop itself
    have hfront : front ≠ [] := by
      rintro rfl
      rw [Text.charsLength_nil] at hback hunits
      rcases hback with rfl | h
      · exact hne rfl
      · omega
    have := List.length_pos_iff.2 hfront
    omega

/-- The steps that are allowed play no part when there is one for each character. -/
theorem issuesFrom_fuel : ∀ {fuel fuel' : Nat} (offset : Nat) {rest : List Char}, rest.length ≤ fuel →
    rest.length ≤ fuel' → issuesFrom e fuel offset rest = issuesFrom e fuel' offset rest
  | 0, 0, _, _, _, _ => rfl
  | 0, _ + 1, _, [], _, _ => rfl
  | _ + 1, 0, _, [], _, _ => rfl
  | _ + 1, _ + 1, _, [], _, _ => rfl
  | fuel + 1, fuel' + 1, offset, c :: cs, h, h' => by
    have hnext : ∀ matched units left, resume (c :: cs) matched = some (units, left) →
        issuesFrom e fuel (offset + units) left = issuesFrom e fuel' (offset + units) left :=
      fun matched units left hr => by
        have hlt := length_of_resume (List.cons_ne_nil c cs) hr
        exact issuesFrom_fuel _ (by omega) (by omega)
    simp only [issuesFrom]
    rcases e.evaluateAll (String.ofList (c :: cs)) with _ | ⟨matched, tags, _ | remainder, error⟩
    · rfl
    · rfl
    · cases hr : resume (c :: cs) matched with
      | none => simp only [hr]
      | some next => simp only [hr, hnext matched next.1 next.2 hr]

/-- There is an answer if all evaluations have one. -/
theorem issuesFrom_isSome (h : ∀ input, (e.evaluateAll input).isSome) :
    ∀ (fuel offset : Nat) (rest : List Char), (issuesFrom e fuel offset rest).isSome
  | 0, _, _ => rfl
  | _ + 1, _, [] => rfl
  | fuel + 1, offset, c :: cs => by
    simp only [issuesFrom]
    obtain ⟨⟨matched, tags, suffix, error⟩, ht⟩ :=
      Option.isSome_iff_exists.1 (h (String.ofList (c :: cs)))
    rw [ht]
    cases suffix with
    | none => rfl
    | some remainder =>
      cases hr : resume (c :: cs) matched with
      | none => simp only [hr, Option.isSome_some]
      | some next => simp only [hr, Option.isSome_map, issuesFrom_isSome h fuel]

/-- All issues are failures if every evaluation ends with the input or with a failure. -/
theorem failed_of_issuesFrom
    (h : ∀ input t, e.evaluateAll input = some t → t.isComplete = true ∨ t.lastError.isSome) :
    ∀ {fuel offset : Nat} {rest : List Char} {issues : List Issue},
      issuesFrom e fuel offset rest = some issues →
      ∀ issue ∈ issues, ∃ place error, issue = .failed place error
  | 0, _, _, _, hissues => by cases hissues; simp
  | _ + 1, _, [], _, hissues => by cases hissues; simp
  | fuel + 1, offset, c :: cs, issues, hissues => by
    simp only [issuesFrom] at hissues
    cases ht : e.evaluateAll (String.ofList (c :: cs)) with
    | none => rw [ht] at hissues; cases hissues
    | some t =>
      have hend := h _ t ht
      rw [ht] at hissues
      obtain ⟨matched, tags, suffix, error⟩ := t
      cases suffix with
      | none => cases hissues; simp
      | some remainder =>
        obtain ⟨error, rfl⟩ := Option.isSome_iff_exists.1 (hend.resolve_left (by simp [Tokenized.isComplete]))
        cases hr : resume (c :: cs) matched with
        | none =>
          simp only [hr, Option.some.injEq] at hissues
          rw [← hissues]
          simp
        | some next =>
          simp only [hr, Option.map_eq_some_iff] at hissues
          obtain ⟨later, hlater, rfl⟩ := hissues
          intro issue hmem
          rcases List.mem_cons.1 hmem with rfl | hmem
          · exact ⟨_, _, rfl⟩
          · exact failed_of_issuesFrom h hlater issue hmem

end GraphLexer.Lint
