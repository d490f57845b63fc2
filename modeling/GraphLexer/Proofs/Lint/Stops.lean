/-
The linter tells each stop once.

It scans a text from boundary to boundary: a scan that stops is an issue, and the next one begins at the
first boundary after the stop, also where the stop falls within a character (`resume_spec`). `Scans` says
this of all scans of a text, and the answer of the linter is what they find (`scans_of_issuesFrom`). So
the issues come one after the other, none before the end of what was scanned, and each of them at the
place where the evaluation of what follows its boundary ends.
-/
import GraphLexer.Proofs.Evaluator.Accounting
import GraphLexer.Proofs.Language.Termination
import Mathlib.Data.List.Chain

namespace GraphLexer

/-- The issue of an evaluation of what follows `offset` units, where it leaves a remainder. -/
def Issue.ofStop (offset : Nat) (t : Tokenized) (remainder : String) : Issue :=
  match t.lastError with
  | some error => .failed (offset + t.matchedLen) error
  | none => .unparsed (offset + t.matchedLen) remainder

@[simp] theorem Issue.offset_ofStop (offset : Nat) (t : Tokenized) (remainder : String) :
    (ofStop offset t remainder).offset = offset + t.matchedLen := by
  unfold ofStop
  split <;> rfl

namespace Lint

open Text (CutAfter charsLength)

variable {e : Evaluator}

/-- After a stop with input left the linter goes on at the first boundary after the stop. -/
theorem resume_spec {rest : List Char} {matched : Nat} (h : matched < charsLength rest) :
    ∃ skipped left, CutAfter rest matched skipped left ∧
      resume rest matched = some (charsLength skipped, left) := by
  obtain ⟨front, back, rfl, hback, hfound⟩ := boundaryFrom_spec matched rest 0 0
  simp only [Nat.zero_add] at hback hfound
  rw [Text.charsLength_append] at h
  have hle : matched ≤ charsLength front := by
    rcases hback with rfl | hle
    · rw [Text.charsLength_nil] at h
      omega
    · exact hle
  simp only [resume, hfound, dropBytes_append]
  split
  · next hunits =>
    cases back with
    | nil =>
      rw [Text.charsLength_nil] at h
      omega
    | cons c back =>
      have hpos := Text.charLength_pos c
      have hlength : charsLength (front ++ [c]) = charsLength front + Text.charLength c := by
        rw [Text.charsLength_append, Text.charsLength_cons, Text.charsLength_nil, Nat.add_zero]
      refine ⟨front ++ [c], back, ⟨by simp, by omega, ?_⟩, by rw [hlength]⟩
      intro front' rest' happend hlt
      -- a longer beginning of the text than `front` goes on with `c`
      rcases List.append_eq_append_iff.1 happend with ⟨mid, rfl, hmid⟩ | ⟨mid, rfl, -⟩
      · cases mid with
        | nil =>
          rw [List.append_nil] at hlt
          omega
        | cons d mid =>
          cases hmid
          rw [hlength, Text.charsLength_append, Text.charsLength_cons]
          omega
      · rw [Text.charsLength_append] at hunits
        omega
  · next hunits =>
    refine ⟨front, back, ⟨rfl, by omega, ?_⟩, rfl⟩
    intro front' rest' happend hlt
    have hfirst := boundaryFrom_le matched front' rest' 0 0 (by omega)
    rw [← happend, hfound, Nat.zero_add] at hfirst
    exact hfirst

/-! ## Scans -/

/-- Scans of a text from the end of `front` on, and the issues that they find. A scan that leaves nothing
    is the last one. -/
inductive Scans (e : Evaluator) (text : List Char) : List Char → List Char → List Issue → Prop
  | done {front rest : List Char} {t : Tokenized} : e.evaluateAll (String.ofList rest) = some t →
      t.isComplete = true → Scans e text front rest []
  | stop {front rest front' rest' : List Char} {t : Tokenized} {remainder : String} {later : List Issue} :
      e.evaluateAll (String.ofList rest) = some t → t.unmatchedSuffix = some remainder →
      CutAfter text (charsLength front + t.matchedLen) front' rest' → Scans e text front' rest' later →
      Scans e text front rest (.ofStop (charsLength front) t remainder :: later)

theorem evaluateAll_nil : ∃ t, e.evaluateAll (String.ofList []) = some t ∧ t.isComplete = true :=
  ⟨_, rfl, rfl⟩

theorem issuesFrom_nil (fuel offset : Nat) : issuesFrom e fuel offset [] = some [] := by
  cases fuel <;> rfl

theorem length_of_stop {rest : List Char} {t : Tokenized} {remainder : String}
    (ht : e.evaluateAll (String.ofList rest) = some t) (hr : t.unmatchedSuffix = some remainder) :
    t.matchedLen < charsLength rest ∧ Text.length remainder = charsLength rest - t.matchedLen := by
  have hlength : Text.length (String.ofList rest) = charsLength rest := by
    rw [Text.length, String.toList_ofList]
  exact hlength ▸ Evaluator.length_of_unmatchedSuffix ht hr

/-- The issues that the linter tells are those that the scans find, by induction on its steps. -/
theorem scans_of_issuesFrom {text : List Char} : ∀ {fuel : Nat} {front rest : List Char}
    {issues : List Issue}, text = front ++ rest → rest.length ≤ fuel →
    issuesFrom e fuel (charsLength front) rest = some issues → Scans e text front rest issues
  | _, front, [], issues, _, _, h => by
    obtain ⟨t, ht, hcomplete⟩ := evaluateAll_nil (e := e)
    rw [issuesFrom_nil] at h
    cases h
    exact .done ht hcomplete
  | fuel + 1, front, c :: cs, issues, htext, hlen, h => by
    simp only [issuesFrom] at h
    cases ht : e.evaluateAll (String.ofList (c :: cs)) with
    | none =>
      rw [ht] at h
      cases h
    | some t =>
      rw [ht] at h
      cases hr : t.unmatchedSuffix with
      | none =>
        simp only [hr] at h
        cases h
        exact .done ht (by rw [Tokenized.isComplete, hr]; rfl)
      | some remainder =>
        obtain ⟨skipped, left, hcut, hresume⟩ := resume_spec (length_of_stop ht hr).1
        simp only [hr, hresume, Option.map_eq_some_iff] at h
        obtain ⟨later, hlater, rfl⟩ := h
        have hshort := length_of_resume (List.cons_ne_nil c cs) hresume
        rw [← Text.charsLength_append] at hlater
        have happend : text = front ++ skipped ++ left := by rw [htext, hcut.append, List.append_assoc]
        have hnext := scans_of_issuesFrom happend (by omega) hlater
        exact .stop ht hr (htext ▸ hcut.after front) hnext

namespace Scans

variable {text front rest : List Char} {issues : List Issue}

theorem first (h : Scans e text front rest issues) : ∃ t, e.evaluateAll (String.ofList rest) = some t ∧
    (issues = [] ↔ t.isComplete = true) ∧
    ∀ issue ∈ issues.head?, issue.offset = charsLength front + t.matchedLen := by
  cases h with
  | done ht hcomplete => exact ⟨_, ht, by simp [hcomplete], by simp⟩
  | stop ht hr => exact ⟨_, ht, by simp [Tokenized.isComplete, hr], by simp⟩

theorem bounds (h : Scans e text front rest issues) (htext : text = front ++ rest) :
    ∀ issue ∈ issues, charsLength front ≤ issue.offset ∧ issue.offset < charsLength text := by
  induction h with
  | done => simp
  | @stop front rest _ _ t _ _ ht hr hcut _ ih =>
    intro issue hmem
    rcases List.mem_cons.1 hmem with rfl | hmem
    · have hlt := (length_of_stop ht hr).1
      rw [Issue.offset_ofStop, htext, Text.charsLength_append]
      omega
    · have hlater := ih hcut.append issue hmem
      have := hcut.lt_length
      omega

theorem increasing (h : Scans e text front rest issues) (htext : text = front ++ rest) :
    issues.Pairwise fun a b => a.offset < b.offset := by
  induction h with
  | done => exact .nil
  | stop _ _ hcut hlater ih =>
    refine List.pairwise_cons.2 ⟨fun issue hmem => ?_, ih hcut.append⟩
    have hle := (hlater.bounds hcut.append issue hmem).1
    have := hcut.lt_length
    rw [Issue.offset_ofStop]
    omega

/-- After an issue the next scan begins at the first boundary after it, and the next issue is where that
    scan stops. -/
theorem next (h : Scans e text front rest issues) : issues.IsChain fun a b => ∃ front rest t,
    CutAfter text a.offset front rest ∧ e.evaluateAll (String.ofList rest) = some t ∧
      b.offset = charsLength front + t.matchedLen := by
  induction h with
  | done => exact .nil
  | stop _ _ hcut hlater ih =>
    refine List.isChain_cons.2 ⟨fun b hb => ?_, ih⟩
    obtain ⟨t, ht, -, hfirst⟩ := hlater.first
    exact ⟨_, _, t, by rwa [Issue.offset_ofStop], ht, hfirst b hb⟩

theorem last (h : Scans e text front rest issues) : ∀ last ∈ issues.getLast?, ∃ front rest t,
    CutAfter text last.offset front rest ∧ e.evaluateAll (String.ofList rest) = some t ∧
      t.isComplete = true := by
  induction h with
  | done => simp
  | @stop front _ _ _ t remainder later _ _ hcut hlater ih =>
    intro last hlast
    cases later with
    | nil =>
      obtain rfl : Issue.ofStop (charsLength front) t remainder = last := Option.some.inj hlast
      obtain ⟨t', ht', hnil, -⟩ := hlater.first
      exact ⟨_, _, t', by rwa [Issue.offset_ofStop], ht', hnil.1 rfl⟩
    | cons issue later => exact ih last (by rwa [List.getLast?_cons_cons] at hlast)

theorem length_remainder (h : Scans e text front rest issues) (htext : text = front ++ rest)
    {offset : Nat} {remainder : String} (hmem : .unparsed offset remainder ∈ issues) :
    Text.length remainder = charsLength text - offset := by
  induction h with
  | done => cases hmem
  | @stop front rest _ _ t _ _ ht hr hcut _ ih =>
    rcases List.mem_cons.1 hmem with heq | hmem
    · have hlen := (length_of_stop ht hr).2
      unfold Issue.ofStop at heq
      split at heq
      · cases heq
      · cases heq
        rw [hlen, htext, Text.charsLength_append]
        omega
    · exact ih hcut.append hmem

end Scans

/-- What the issues of a text say about it. -/
structure TellsStops (e : Evaluator) (text : List Char) (t : Tokenized) (issues : List Issue) : Prop where
  nil_iff : issues = [] ↔ t.isComplete = true
  increasing : issues.Pairwise fun a b => a.offset < b.offset
  offset_lt : ∀ issue ∈ issues, issue.offset < charsLength text
  first : ∀ issue ∈ issues.head?, issue.offset = t.matchedLen
  /-- the scan after an issue begins at the first boundary after it, and stops at the next one -/
  next : issues.IsChain fun a b => ∃ front rest t, CutAfter text a.offset front rest ∧
    e.evaluateAll (String.ofList rest) = some t ∧ b.offset = charsLength front + t.matchedLen
  /-- the scan after the last issue does not stop -/
  last : ∀ issue ∈ issues.getLast?, ∃ front rest t, CutAfter text issue.offset front rest ∧
    e.evaluateAll (String.ofList rest) = some t ∧ t.isComplete = true
  remainder : ∀ offset remainder, .unparsed offset remainder ∈ issues →
    Text.length remainder = charsLength text - offset

/-- **The linter tells each stop once**, in every language that has an answer to every input. It ends, its
    bound on steps playing no part, and its issues are those that the scans of the input find. -/
theorem check_tellsStops (l : Language) (h : ∀ input, (l.tokenize input).isSome) (input : String) :
    ∃ t issues, l.tokenize input = some t ∧ check l input = some issues ∧
      (∀ fuel, input.toList.length ≤ fuel →
        issuesFrom l.evaluator fuel 0 input.toList = some issues) ∧
      Scans l.evaluator input.toList [] input.toList issues ∧
      TellsStops l.evaluator input.toList t issues := by
  obtain ⟨issues, hissues⟩ := Option.isSome_iff_exists.1 (issuesFrom_isSome h input.toList.length 0 input.toList)
  have hscans : Scans l.evaluator input.toList [] input.toList issues :=
    scans_of_issuesFrom rfl (Nat.le_refl _) hissues
  obtain ⟨t, ht, hnil, hfirst⟩ := hscans.first
  rw [String.ofList_toList] at ht
  refine ⟨t, issues, ht, hissues, fun fuel hle => ?_, hscans, ?_⟩
  · rw [issuesFrom_fuel 0 hle (Nat.le_refl _)]
    exact hissues
  · exact {
      nil_iff := hnil
      increasing := hscans.increasing rfl
      offset_lt := fun issue hmem => (hscans.bounds rfl issue hmem).2
      first := fun issue hmem => by simpa using hfirst issue hmem
      next := hscans.next
      last := hscans.last
      remainder := fun _ _ hmem => hscans.length_remainder rfl hmem }

/-- Stops at the first half of a pair, after one letter. -/
def halving : Language :=
  ⟨"halving", ["halving"], Evaluator.halving⟩

theorem halving_tellsStops : (∀ input, (halving.tokenize input).isSome) ∧ ∃ t issues,
    halving.tokenize "a😀a😀b" = some t ∧ check halving "a😀a😀b" = some issues ∧
    issues = [.unparsed 2 "\uFFFDa😀b", .unparsed 5 "\uFFFDb", .unparsed 6 "b"] ∧
    TellsStops halving.evaluator "a😀a😀b".toList t issues := by
  have hall : ∀ input, (halving.tokenize input).isSome := fun input =>
    Evaluator.evaluateAll_isSome_of_loopsProductive (e := halving.evaluator)
      (Language.graph_of_loopsConsume (l := halving) rfl).2 input
  obtain ⟨t, issues, ht, hissues, -, -, htells⟩ := check_tellsStops halving hall "a😀a😀b"
  have hfound : check halving "a😀a😀b" =
      some [.unparsed 2 "\uFFFDa😀b", .unparsed 5 "\uFFFDb", .unparsed 6 "b"] := by
    decide +kernel
  exact ⟨hall, t, issues, ht, hissues, Option.some.inj (hissues.symm.trans hfound), htells⟩

end Lint

end GraphLexer
