/-
What is dumped into a file is read back, unless the binary form begins like a document.

The JSON form begins with a brace, so it is always read as a document. The binary form begins with the
length of the root's name, which may be the code of a brace or of a blank: `ResemblesDocument` says when
the first byte that is not blank is a brace (`startsWithBrace_toBinary`). Such a form is refused, and never
read as another grammar: its commit flags, or else the number 0 of its states, are control characters, so
it is no document (`ofJson_toBinary`).
-/
import Mathlib.Data.List.TakeWhile
import GraphLexer.Command.Run
import GraphLexer.Proofs.Grammar.Binary
import GraphLexer.Proofs.Grammar.Control
import GraphLexer.Proofs.Grammar.Document

namespace GraphLexer

/-! ## The first byte that is not blank -/

/-- The bytes that are blank, as numbers. -/
def blankCodes : List Nat :=
  [0x09, 0x0a, 0x0c, 0x0d, 0x20]

theorem between_of_mem_blankCodes : ∀ n ∈ blankCodes, 1 < n ∧ n < 0x7b := by decide

theorem isBlankByte_iff {b : UInt8} : isBlankByte b ↔ b.toNat ∈ blankCodes := by
  simp only [isBlankByte, blankCodes, Bool.or_eq_true, beq_iff_eq, ← UInt8.toNat_inj, List.mem_cons,
    List.not_mem_nil, or_false, UInt8.reduceToNat]
  omega

theorem startsWithBrace_iff {bytes : List UInt8} :
    startsWithBrace bytes ↔ bytes.find? (!isBlankByte ·) = some 0x7b := by
  rw [startsWithBrace, beq_iff_eq, List.find?_not_eq_head?_dropWhile]

theorem startsWithBrace_append {xs ys : List UInt8} : startsWithBrace (xs ++ ys) ↔
    startsWithBrace xs ∨ (∀ b ∈ xs, isBlankByte b) ∧ startsWithBrace ys := by
  simp only [startsWithBrace_iff, List.find?_append, Option.or_eq_some_iff, List.find?_eq_none,
    Bool.not_eq_true', Bool.not_eq_false]

theorem startsWithBrace_cons {b : UInt8} {bytes : List UInt8} : startsWithBrace (b :: bytes) ↔
    b.toNat = 0x7b ∨ b.toNat ∈ blankCodes ∧ startsWithBrace bytes := by
  rw [← isBlankByte_iff, startsWithBrace_iff, List.find?_cons]
  cases hb : isBlankByte b with
  | true =>
    have hne : b.toNat ≠ 0x7b := by
      have := between_of_mem_blankCodes _ (isBlankByte_iff.1 hb)
      omega
    simp [startsWithBrace_iff, hne]
  | false => simp [← UInt8.toNat_inj]

/-- A length of one byte is that byte. A longer one begins with a byte that is no character. -/
theorem startsWithBrace_putLength_append (n : Nat) (bytes : List UInt8) :
    startsWithBrace (Wire.putLength n ++ bytes) ↔ n = 0x7b ∨ n ∈ blankCodes ∧ startsWithBrace bytes := by
  rw [Wire.putLength, Wire.digits]
  split
  · next hn => rw [List.singleton_append, startsWithBrace_cons, Wire.toNat_digit (by omega)]
  · next hn =>
    have hlong : ∀ k : Nat, 128 ≤ k → k ≠ 0x7b ∧ k ∉ blankCodes := fun k hk =>
      ⟨by omega, fun h => absurd (between_of_mem_blankCodes k h) (by omega)⟩
    have hfirst := hlong (128 + n % 128) (by omega)
    have hlength := hlong n (by omega)
    rw [List.cons_append, startsWithBrace_cons, Wire.toNat_digit (by omega)]
    simp [hfirst, hlength]

/-! ## The beginning of a form -/

/-- A tree begins with its commit flag. -/
theorem Tree.exists_listBytes_cons (t : Tree) (ts : List Tree) :
    ∃ b bytes, listBytes (t :: ts) = b :: bytes ∧ b.toNat ≤ 1 := by
  refine ⟨if t.commit then 1 else 0, _, by rw [listBytes, toBytes_eq]; rfl, ?_⟩
  split <;> decide

theorem Tree.startsWithBrace_listBytes (ts : List Tree) : startsWithBrace (listBytes ts) = false := by
  cases ts with
  | nil => rfl
  | cons t ts =>
    obtain ⟨b, bytes, hbytes, hb⟩ := exists_listBytes_cons t ts
    rw [hbytes, ← Bool.not_eq_true, startsWithBrace_cons]
    rintro (h | ⟨h, -⟩)
    · omega
    · exact absurd (between_of_mem_blankCodes _ h) (by omega)

namespace Grammar

/-- The binary form of a grammar begins like a document. It consists of the length of the root's name, the
    name, the number of states and the states, and one of the first three begins with a brace, after
    blanks only. -/
def ResemblesDocument (g : Grammar) : Prop :=
  (Text.utf8 g.root).length = 0x7b ∨
    (Text.utf8 g.root).length ∈ blankCodes ∧
      (startsWithBrace (Text.utf8 g.root) ∨
        (∀ b ∈ Text.utf8 g.root, isBlankByte b) ∧ g.states.length = 0x7b)

theorem startsWithBrace_toBinary (g : Grammar) : startsWithBrace g.toBinary ↔ g.ResemblesDocument := by
  rw [toBinary, Wire.putText, List.append_assoc, List.append_assoc, startsWithBrace_putLength_append,
    startsWithBrace_append, startsWithBrace_putLength_append, Tree.startsWithBrace_listBytes,
    ResemblesDocument]
  simp

theorem startsWithBrace_toJson (g : Grammar) (s : String) : startsWithBrace (Text.utf8 (g.toJson ++ s)) := by
  have htext : ∃ cs, (g.toJson ++ s).toList = '\x7b' :: cs := by
    rw [toJson, String.toList_append, String.toList_ofList, toValue, Json.pretty_object]
    exact ⟨_, rfl⟩
  obtain ⟨cs, hcs⟩ := htext
  rw [Text.utf8_eq_flatMap, hcs]
  rfl

/-! ## Forms as documents -/

/-- A byte 0 or 1 is in every form: the commit flag of the first state, or else the number of states. -/
theorem exists_mem_toBinary (g : Grammar) : ∃ b ∈ g.toBinary, b.toNat ≤ 1 := by
  rw [toBinary]
  cases g.states with
  | nil => exact ⟨0, by simp [Wire.putLength, Wire.digits], by decide⟩
  | cons t ts =>
    obtain ⟨b, bytes, hbytes, hb⟩ := Tree.exists_listBytes_cons t ts
    exact ⟨b, by simp [hbytes], hb⟩

/-- **No binary form is a document.** -/
theorem ofJson_toBinary (g : Grammar) :
    ∃ fault, ofJson (Text.decodeLossy g.toBinary) = .error (.json fault) := by
  obtain ⟨b, hb, hle⟩ := g.exists_mem_toBinary
  have hcontrol : Json.IsControl (Char.ofNat b.toNat) := by
    rcases (by omega : b.toNat = 0 ∨ b.toNat = 1) with h | h <;> rw [h] <;> exact ⟨by decide, rfl⟩
  obtain ⟨fault, hfault⟩ := readDocument_of_mem hcontrol (Text.mem_decodeLossy (by omega) hb)
  exact ⟨fault, by rw [ofJson, hfault]⟩

/-- Blanks after a document are ignored. -/
theorem ofJson_toJson_append (g : Grammar) {s : String} (hs : Json.skipBlank s.toList = []) :
    ofJson (g.toJson ++ s) =
      if g.toValue.depth ≤ Json.maxDepth then .ok g else .error (.json .malformed) := by
  rw [ofJson, String.toList_append, readDocument_toJson_append g hs, Json.within]
  by_cases hdepth : g.toValue.depth ≤ Json.maxDepth
  · rw [if_pos hdepth, if_pos hdepth]
    exact ofStates_states g
  · rw [if_neg hdepth, if_neg hdepth]
    rfl

/-! ## Forms as files -/

theorem ofFile_toBinary {g : Grammar} {path : String} (hpath : extension? path ≠ some "json")
    (hfits : g.Fits) (hplain : ¬ g.ResemblesDocument) : ofFile path g.toBinary = .ok g := by
  have hextension : (extension? path == some "json") = false := beq_eq_false_iff_ne.2 hpath
  have hbrace : startsWithBrace g.toBinary = false := by
    rwa [← Bool.not_eq_true, startsWithBrace_toBinary]
  have hread := ofBinary_append hfits []
  rw [List.append_nil] at hread
  rw [ofFile, isDocument, hextension, hbrace]
  exact hread

theorem ofFile_of_resembles {g : Grammar} (path : String) (h : g.ResemblesDocument) :
    ∃ fault, ofFile path g.toBinary = .error (.json fault) := by
  rw [ofFile, isDocument, g.startsWithBrace_toBinary.2 h, Bool.or_true]
  exact g.ofJson_toBinary

theorem ofFile_toJson_append (g : Grammar) (path : String) {s : String}
    (hs : Json.skipBlank s.toList = []) : ofFile path (Text.utf8 (g.toJson ++ s)) =
      if g.toValue.depth ≤ Json.maxDepth then .ok g else .error (.json .malformed) := by
  rw [ofFile, isDocument, startsWithBrace_toJson, Bool.or_true, if_pos rfl, Text.decodeLossy,
    Text.ofUtf8?_utf8]
  exact g.ofJson_toJson_append hs

/-- A grammar of one state without transitions. -/
def single (name : String) : Grammar where
  root := name
  states := [.plain (.state name) []]
  named := by simp [Tree.plain, Tree.stateName?]
  distinct := by simp [Tree.plain, Tree.stateNames, Tree.stateName?]

end Grammar

namespace LoadedGrammar

/-- **What is dumped is read back** from a file that is not named like a document: from the JSON form
    always, and from the binary form unless it resembles a document, and then it is refused. -/
theorem ofFile_dumpBytes (loaded : LoadedGrammar) (palette : Palette) {path : String}
    (hpath : extension? path ≠ some "json") (hfits : loaded.grammar.Fits)
    (hdepth : loaded.grammar.toValue.depth ≤ Json.maxDepth) :
    Grammar.ofFile path (loaded.dumpBytes .json palette) = .ok loaded.grammar ∧
    (¬ loaded.grammar.ResemblesDocument →
      Grammar.ofFile path (loaded.dumpBytes .binary palette) = .ok loaded.grammar) ∧
    (loaded.grammar.ResemblesDocument →
      ∃ fault, Grammar.ofFile path (loaded.dumpBytes .binary palette) = .error (.json fault)) := by
  refine ⟨?_, Grammar.ofFile_toBinary hpath hfits, Grammar.ofFile_of_resembles path⟩
  have hread := loaded.grammar.ofFile_toJson_append path (show Json.skipBlank "\n".toList = [] from rfl)
  rwa [if_pos hdepth] at hread

/-- A name of nine blanks. So its length is blank, too, but the number of states is no brace. -/
def blankName : LoadedGrammar :=
  ⟨"g.json", .single "\t        "⟩

theorem ofFile_blankName : extension? "g.bin" ≠ some "json" ∧ blankName.grammar.Fits ∧
    blankName.grammar.toValue.depth ≤ Json.maxDepth ∧ ¬ blankName.grammar.ResemblesDocument ∧
    Grammar.ofFile "g.bin" (blankName.dumpBytes .json .off) = .ok blankName.grammar ∧
    Grammar.ofFile "g.bin" (blankName.dumpBytes .binary .off) = .ok blankName.grammar := by
  have hpath : extension? "g.bin" ≠ some "json" := by decide +kernel
  have hfits : blankName.grammar.Fits := Grammar.fits_of_length (by decide +kernel)
  have hdepth : blankName.grammar.toValue.depth ≤ Json.maxDepth := by decide +kernel
  have hplain : ¬ blankName.grammar.ResemblesDocument := by
    rw [← Grammar.startsWithBrace_toBinary]
    decide +kernel
  obtain ⟨hjson, hbinary, -⟩ := ofFile_dumpBytes blankName .off hpath hfits hdepth
  exact ⟨hpath, hfits, hdepth, hplain, hjson, hbinary hplain⟩

/-- A name of 123 bytes, so that its length is a brace. -/
def braceLength : LoadedGrammar :=
  ⟨"g.json", .single (String.ofList (List.replicate 123 'r'))⟩

/-- **A dump in the binary form may not be read back**, as it is taken for a document. -/
theorem ofFile_braceLength : extension? "g.bin" ≠ some "json" ∧ braceLength.grammar.Fits ∧
    braceLength.grammar.toValue.depth ≤ Json.maxDepth ∧
    ∃ fault, Grammar.ofFile "g.bin" (braceLength.dumpBytes .binary .off) = .error (.json fault) := by
  have hlength : (Text.utf8 braceLength.grammar.root).length = 0x7b := by decide +kernel
  exact ⟨by decide +kernel, Grammar.fits_of_length (by decide +kernel), by decide +kernel,
    Grammar.ofFile_of_resembles "g.bin" (Or.inl hlength)⟩

end LoadedGrammar

end GraphLexer
