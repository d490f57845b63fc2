/-
Control characters in documents.

No reader of a grammar passes over a control character that is no blank, and none may follow the end of a
document. So a text that has one is no document (`readDocument_of_mem`).
-/
import GraphLexer.Grammar.Document
import GraphLexer.Proofs.Json.Control

namespace GraphLexer

open Json (Value Reader IsControl Keeps)

section
variable {c : Char} (hc : IsControl c)
include hc

namespace Tree

theorem keeps_draftMember {value : Reader Value} {transitions : Reader (List Tree)}
    (hvalue : Keeps c value) (htransitions : Keeps c transitions) (d : Draft) (key : String) :
    Keeps c (draftMember value transitions d key) := by
  intro cs d' rest h hmem
  unfold draftMember at h
  split at h
  · split at h
    · cases h
    · obtain ⟨_, rest₁, h, hmem₁⟩ := (Json.keeps_colon hc).bind h hmem
      obtain ⟨b, rest₂, h, hmem₂⟩ := (Json.keeps_boolValue hc).bind h hmem₁
      cases h
      exact hmem₂
  split at h
  · split at h
    · cases h
    · obtain ⟨_, rest₁, h, hmem₁⟩ := (Json.keeps_colon hc).bind h hmem
      obtain ⟨ts, rest₂, h, hmem₂⟩ := htransitions.bind h hmem₁
      cases h
      exact hmem₂
  · obtain ⟨ms, rest₁, h, hmem₁⟩ := (Json.keeps_member hc hvalue d.members key).bind h hmem
    cases h
    exact hmem₁

theorem keeps_body {value : Reader Value} {transitions : Reader (List Tree)}
    (hvalue : Keeps c value) (htransitions : Keeps c transitions) : Keeps c (body value transitions) := by
  intro cs t rest h hmem
  obtain ⟨d, rest₁, h, hmem₁⟩ :=
    (Json.keeps_entries hc (keeps_draftMember hc hvalue htransitions) _).bind h hmem
  obtain ⟨node, -, h⟩ := bind_eq_ok.1 h
  cases h
  exact hmem₁

theorem keeps_ofJson : ∀ levels : Nat, Keeps c (ofJson levels)
  | 0 => Json.keeps_objectValue hc Json.keeps_tooDeep
  | 1 => Json.keeps_objectValue hc
      (keeps_body hc (Json.keeps_value hc 0) (Json.keeps_arrayValue hc Json.keeps_tooDeep))
  | levels + 2 => Json.keeps_objectValue hc
      (keeps_body hc (Json.keeps_value hc (levels + 1))
        (Json.keeps_arrayValue hc (Json.keeps_items hc (keeps_ofJson levels))))

end Tree

namespace Grammar

theorem keeps_statesValue : Keeps c statesValue :=
  Json.keeps_arrayValue hc (Json.keeps_items hc (Tree.keeps_ofJson hc _))

theorem keeps_draftMember (d : Draft) (key : String) : Keeps c (draftMember d key) := by
  intro cs d' rest h hmem
  unfold draftMember at h
  split at h
  · split at h
    · cases h
    · obtain ⟨_, rest₁, h, hmem₁⟩ := (Json.keeps_colon hc).bind h hmem
      obtain ⟨root, rest₂, h, hmem₂⟩ := (Json.keeps_stringValue hc).bind h hmem₁
      cases h
      exact hmem₂
  split at h
  · split at h
    · cases h
    · obtain ⟨_, rest₁, h, hmem₁⟩ := (Json.keeps_colon hc).bind h hmem
      obtain ⟨states, rest₂, h, hmem₂⟩ := (keeps_statesValue hc).bind h hmem₁
      cases h
      exact hmem₂
  · obtain ⟨_, rest₁, h, hmem₁⟩ := (Json.keeps_colon hc).bind h hmem
    obtain ⟨rest₂, hskip, h⟩ := bind_eq_ok.1 h
    cases h
    exact Json.mem_of_skipUpTo hc hskip hmem₁

theorem keeps_objectBody : Keeps c objectBody := by
  intro cs document rest h hmem
  obtain ⟨d, rest₁, h, hmem₁⟩ := (Json.keeps_entries hc (keeps_draftMember hc) _).bind h hmem
  dsimp only at h
  split at h
  · cases h; exact hmem₁
  · cases h

theorem mem_of_expectItem {cs rest : List Char} (h : expectItem cs = .ok rest) (hmem : c ∈ cs) :
    c ∈ rest := by
  have hmem₁ := hc.skipBlank hmem
  unfold expectItem at h
  split at h
  · cases h
  next hds =>
  rw [hds] at hmem₁
  split at h
  · cases h
  · cases h; exact hmem₁

theorem keeps_arrayBody : Keeps c arrayBody := by
  intro cs document rest h hmem
  obtain ⟨rest₁, h₁, h⟩ := bind_eq_ok.1 h
  obtain ⟨root, rest₂, h, hmem₂⟩ := (Json.keeps_stringValue hc).bind h (mem_of_expectItem hc h₁ hmem)
  obtain ⟨rest₃, h₃, h⟩ := bind_eq_ok.1 h
  have hmem₃ := mem_of_expectItem hc h₃ hmem₂
  dsimp only at h
  split at h
  · have hmem₄ := hc.skipBlank (hc.tail hmem₃ (by decide))
    split at h
    · cases h
    · obtain ⟨states, rest₅, h, hmem₅⟩ := (keeps_statesValue hc).bind h hmem₄
      have hmem₆ := hc.skipBlank hmem₅
      dsimp only at h
      split at h
      · cases h
      next hds =>
      rw [hds] at hmem₆
      split at h
      · next hd =>
        cases h
        exact hc.tail hmem₆ (by rw [hd]; decide)
      · cases h
  · cases h

theorem finish_of_mem {cs : List Char} (hmem : c ∈ cs) : Json.finish cs = .error .malformed := by
  have hmem₁ := hc.skipBlank hmem
  unfold Json.finish
  split
  · next hnil => rw [hnil] at hmem₁; cases hmem₁
  · rfl

/-- **A text with a control character is no document.** -/
theorem readDocument_of_mem {cs : List Char} (hmem : c ∈ cs) : ∃ fault, readDocument cs = .error fault := by
  cases h : readDocument cs with
  | error fault => exact ⟨fault, rfl⟩
  | ok document =>
    exfalso
    have hmem₁ := hc.skipBlank hmem
    have hread : ∀ {read : Reader (String × List Tree)} {ds}, Keeps c read → c ∈ ds →
        (read ds >>= fun p => Json.finish p.2 >>= fun _ => .ok p.1) ≠ .ok document := by
      intro read ds hread hds h
      obtain ⟨document', rest, h, hrest⟩ := hread.bind h hds
      obtain ⟨_, hfinish, -⟩ := bind_eq_ok.1 h
      rw [finish_of_mem hc hrest] at hfinish
      cases hfinish
    unfold readDocument at h
    split at h
    · next hds =>
      rw [hds] at hmem₁
      exact hread (keeps_objectBody hc) (hc.tail hmem₁ (by decide)) h
    · next hds =>
      rw [hds] at hmem₁
      exact hread (keeps_arrayBody hc) (hc.tail hmem₁ (by decide)) h
    · obtain ⟨_, h₁, -⟩ := bind_eq_ok.1 h
      exact Json.refuse_ne_ok h₁

end Grammar

end

end GraphLexer
