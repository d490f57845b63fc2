/-
A grammar is read back from its binary form, whatever bytes follow it. So no two grammars have the same
form, and no form begins another one.

The form is read by the pieces of which it is made: each piece is read from its own bytes and leaves the
rest. A text or a list is read back if its length is one of 64 bits, so a grammar is if all its texts and
lists `Fit`. They do in a form whose bytes can be counted by such a length (`Grammar.fits_of_length`).
-/
import GraphLexer.Grammar.Binary
import GraphLexer.Proofs.Wire

namespace GraphLexer

open Wire (Reads reads_word reads_text reads_bool reads_option reads_list)

/-! ## Lengths of 64 bits -/

/-- The bytes of a text can be counted. -/
def Text.Fits (s : String) : Prop :=
  (utf8 s).length < 2 ^ 64

/-- The text of a node fits. -/
def Node.Fits : Node → Prop
  | state text | literal text | regex text | subState text _ | applyTag text => Text.Fits text
  | unicode _ _ => True

namespace Tree

mutual

/-- The texts and lists of a tree fit. -/
def Fits : Tree → Prop
  | ⟨_, node, transitions⟩ => node.Fits ∧ transitions.length < 2 ^ 64 ∧ AllFit transitions

/-- The texts and lists of all trees of a list fit. -/
def AllFit : List Tree → Prop
  | [] => True
  | t :: ts => t.Fits ∧ AllFit ts

end

end Tree

/-- The texts and lists of a grammar fit. -/
def Grammar.Fits (g : Grammar) : Prop :=
  Text.Fits g.root ∧ g.states.length < 2 ^ 64 ∧ Tree.AllFit g.states

/-! ## Nodes -/

theorem Repetition.reads_ofBytes (r : Repetition) : Reads ofBytes r.toBytes r := by
  intro rest
  obtain ⟨greedy, min, max⟩ := r
  rw [ofBytes, toBytes, List.append_assoc, List.append_assoc, reads_bool, ok_bind]
  dsimp only
  rw [reads_word, ok_bind]
  dsimp only
  rw [reads_option reads_word, ok_bind]

/-- The text of a node, after the number of its kind. -/
theorem Node.reads_text_map {s : String} (make : String → Node) (rest : List UInt8) (h : Text.Fits s) :
    (Wire.text (Wire.putText s ++ rest)).map (fun (text, left) => (make text, left)) =
      .ok (make s, rest) := by
  rw [reads_text h]
  rfl

theorem Node.reads_ofBytes {n : Node} (h : n.Fits) : Reads ofBytes n.toBytes n := by
  intro rest
  rw [ofBytes]
  cases n with
  | state name | literal text | regex pattern | applyTag tag =>
    rw [toBytes, List.append_assoc, reads_word, ok_bind]
    exact reads_text_map _ rest h
  | unicode min max =>
    have hmin := reads_option reads_word min (Wire.putOption Wire.putWord max ++ rest)
    have hmax := reads_option reads_word max rest
    rw [toBytes, List.append_assoc, List.append_assoc, reads_word, ok_bind]
    simp only [UInt32.reduceToNat, hmin, hmax, ok_bind]
  | subState target r =>
    rw [toBytes, List.append_assoc, List.append_assoc, reads_word, ok_bind]
    simp only [UInt32.reduceToNat, reads_text h _, r.reads_ofBytes rest, ok_bind]

theorem Node.fits_of_length {n : Node} (h : n.toBytes.length < 2 ^ 64) : n.Fits := by
  cases n with
  | unicode min max => trivial
  | _ =>
    simp only [toBytes, Wire.putText, List.length_append] at h
    exact Nat.lt_of_le_of_lt (by omega) h

/-! ## Trees -/

namespace Tree

theorem listBytes_eq (ts : List Tree) : listBytes ts = ts.flatMap toBytes := by
  induction ts with
  | nil => rfl
  | cons t ts ih => rw [listBytes, ih, List.flatMap_cons]

theorem toBytes_eq (t : Tree) : t.toBytes = Wire.putBool t.commit ++ t.node.toBytes
    ++ Wire.putLength t.transitions.length ++ listBytes t.transitions := by
  cases t
  rw [toBytes]

theorem length_toBytes_pos (t : Tree) : 0 < t.toBytes.length := by
  rw [toBytes_eq, Wire.putBool]
  simp

theorem length_toBytes_le {t : Tree} {ts : List Tree} (h : t ∈ ts) :
    t.toBytes.length ≤ (listBytes ts).length := by
  induction ts with
  | nil => cases h
  | cons u ts ih =>
    rw [listBytes, List.length_append]
    rcases List.mem_cons.1 h with rfl | h
    · exact Nat.le_add_right _ _
    · exact Nat.le_add_left_of_le (ih h)

/-- Each tree takes a byte or more. -/
theorem length_le_listBytes (ts : List Tree) : ts.length ≤ (listBytes ts).length := by
  induction ts with
  | nil => exact Nat.le_refl _
  | cons t ts ih =>
    have := t.length_toBytes_pos
    rw [listBytes, List.length_append, List.length_cons]
    omega

mutual

theorem fits_of_length : ∀ {t : Tree}, t.toBytes.length < 2 ^ 64 → t.Fits
  | ⟨commit, node, transitions⟩, h => by
    have hlen := length_le_listBytes transitions
    simp only [toBytes, List.length_append] at h
    exact ⟨Node.fits_of_length (by omega), by omega, allFit_of_length (by omega)⟩

theorem allFit_of_length : ∀ {ts : List Tree}, (listBytes ts).length < 2 ^ 64 → AllFit ts
  | [], _ => trivial
  | t :: ts, h => by
    rw [listBytes, List.length_append] at h
    exact ⟨fits_of_length (by omega), allFit_of_length (by omega)⟩

end

theorem AllFit.fits {t : Tree} : ∀ {ts : List Tree}, AllFit ts → t ∈ ts → t.Fits
  | u :: ts, ⟨hu, hts⟩, ht => by
    rcases List.mem_cons.1 ht with rfl | ht
    · exact hu
    · exact hts.fits ht

theorem reads_listBytes {depth : Nat} {ts : List Tree} (hlen : ts.length < 2 ^ 64)
    (hts : ∀ t ∈ ts, Reads (ofBytes depth) t.toBytes t) :
    Reads (Wire.list (ofBytes depth)) (Wire.putLength ts.length ++ listBytes ts) ts := by
  rw [listBytes_eq]
  exact reads_list hlen hts

/-- A tree is read back if more levels are allowed than it has bytes, by induction on the levels. -/
theorem reads_ofBytes : ∀ {depth : Nat} {t : Tree}, t.toBytes.length < depth → t.Fits →
    Reads (ofBytes depth) t.toBytes t
  | depth + 1, ⟨commit, node, transitions⟩, hd, ⟨hnode, hlen, hfit⟩, rest => by
    simp only [toBytes, List.length_append, Wire.putBool, List.length_cons, List.length_nil] at hd
    have hts : ∀ u ∈ transitions, Reads (ofBytes depth) u.toBytes u := by
      intro u hu
      have := length_toBytes_le hu
      exact reads_ofBytes (by omega) (hfit.fits hu)
    rw [toBytes, ofBytes, List.append_assoc, List.append_assoc, List.append_assoc, reads_bool, ok_bind]
    dsimp only
    rw [Node.reads_ofBytes hnode, ok_bind]
    dsimp only
    rw [← List.append_assoc, reads_listBytes hlen hts, ok_bind]

end Tree

/-! ## Grammars -/

namespace Grammar

theorem fits_of_length {g : Grammar} (h : g.toBinary.length < 2 ^ 64) : g.Fits := by
  have hlen := Tree.length_le_listBytes g.states
  rw [toBinary, List.length_append, List.length_append] at h
  have hroot : (Text.utf8 g.root).length ≤ (Wire.putText g.root).length := by
    rw [Wire.putText, List.length_append]
    exact Nat.le_add_left _ _
  exact ⟨Nat.lt_of_le_of_lt hroot (by omega), by omega, Tree.allFit_of_length (by omega)⟩

theorem readBinary_toBinary {g : Grammar} (hg : g.Fits) (rest : List UInt8) :
    readBinary (g.toBinary ++ rest) = .ok (g.root, g.states) := by
  obtain ⟨hroot, hlen, hfit⟩ := hg
  have hstates : ∀ t ∈ g.states,
      Reads (Tree.ofBytes ((g.toBinary ++ rest).length + 1)) t.toBytes t := by
    intro t ht
    have := Tree.length_toBytes_le ht
    have : (Tree.listBytes g.states).length ≤ g.toBinary.length := by
      rw [toBinary, List.length_append]
      exact Nat.le_add_left _ _
    exact Tree.reads_ofBytes (by rw [List.length_append]; omega) (hfit.fits ht)
  rw [readBinary]
  generalize (g.toBinary ++ rest).length + 1 = depth at hstates
  rw [toBinary, List.append_assoc, List.append_assoc, reads_text hroot, ok_bind]
  dsimp only
  rw [← List.append_assoc, Tree.reads_listBytes hlen hstates, ok_bind]

/-- A grammar is read back from its binary form, and what follows the form is ignored. -/
theorem ofBinary_append {g : Grammar} (hg : g.Fits) (rest : List UInt8) :
    ofBinary (g.toBinary ++ rest) = .ok g := by
  rw [ofBinary, readBinary_toBinary hg]
  exact g.ofStates_states

theorem ofBinary_toBinary {g : Grammar} (h : g.toBinary.length < 2 ^ 64) (rest : List UInt8) :
    ofBinary (g.toBinary ++ rest) = .ok g :=
  ofBinary_append (fits_of_length h) rest

/-- A form that begins another one is the form of the same grammar. -/
theorem eq_of_prefix {g g' : Grammar} (hg : g.Fits) (hg' : g'.Fits) (h : g.toBinary <+: g'.toBinary) :
    g = g' := by
  obtain ⟨rest, hrest⟩ := h
  have hread := ofBinary_append hg' []
  rw [List.append_nil, ← hrest, ofBinary_append hg] at hread
  exact Except.ok.inj hread

/-- **The binary form loses nothing, and says where it ends.** A grammar is read back from its form,
    whatever follows it. So the form is that of no other grammar, and is not the beginning of another
    form. -/
theorem toBinary_lossless {g : Grammar} (hg : g.Fits) :
    (∀ rest, ofBinary (g.toBinary ++ rest) = .ok g) ∧
    ∀ g' : Grammar, g'.Fits →
      (g.toBinary = g'.toBinary → g = g') ∧ ∀ rest, rest ≠ [] → g.toBinary ++ rest ≠ g'.toBinary := by
  refine ⟨ofBinary_append hg, fun g' hg' => ⟨fun h => ?_, fun rest hrest h => ?_⟩⟩
  · exact eq_of_prefix hg hg' (h ▸ List.prefix_rfl)
  · obtain rfl : g = g' := eq_of_prefix hg hg' ⟨rest, h⟩
    exact hrest (List.append_right_eq_self.1 h)

/-- A grammar with all kinds of node, and with numbers of one, two, three and five bytes. -/
def widths : Grammar where
  root := String.ofList (List.replicate 128 'w')
  states := [
    .committed (.state "é") [
      .plain (.unicode (some 127) (some 128)) [.committed (.applyTag "") []],
      .plain (.subState "é" ⟨true, 16384, some 4294967295⟩) [.plain (.regex "a+") []],
      .plain (.unicode none none) [.plain (.literal "\"") []]]]
  named := by simp [Tree.committed, Tree.stateName?]
  distinct := by simp [Tree.committed, Tree.stateNames, Tree.stateName?]

theorem widths_lossless : widths.Fits ∧ (widths.withRoot "w").Fits ∧
    ofBinary (widths.toBinary ++ [1, 128]) = .ok widths ∧
    widths.toBinary ++ [1, 128] ≠ (widths.withRoot "w").toBinary := by
  have hfits : widths.Fits := fits_of_length (by decide +kernel)
  have hfits' : (widths.withRoot "w").Fits := fits_of_length (by decide +kernel)
  obtain ⟨hread, happart⟩ := toBinary_lossless hfits
  exact ⟨hfits, hfits', hread _, (happart _ hfits').2 _ (by simp)⟩

end Grammar

end GraphLexer
