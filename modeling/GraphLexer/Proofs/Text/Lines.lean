/-
Texts and their lines.

A line feed ends a line, and what follows the last one is a line of its own unless it is empty (`lines`).
A text that is made of rows has one line for each row and one more for each line feed within a row,
whether the rows are all ended (`length_lines_ended`) or stand between line feeds (`feeds_intercalate`).
If no row has a line feed, the lines are the rows.

Numbers and escaped texts have no line feeds (`feeds_repr`, `feeds_escape`).
-/
import Mathlib.Data.List.Forall2
import GraphLexer.Proofs.Json.Scalar
import GraphLexer.Grammar.Node

namespace GraphLexer.Text

/-! ## Line feeds -/

/-- The number of line feeds in a text. -/
def feeds (s : String) : Nat :=
  s.toList.count '\n'

/-- The number of line feeds in several texts. -/
def feedsOf (ss : List String) : Nat :=
  ss.foldr (feeds · + ·) 0

theorem feeds_eq_zero {s : String} : feeds s = 0 ↔ '\n' ∉ s.toList :=
  List.count_eq_zero

@[simp] theorem feeds_append (s t : String) : feeds (s ++ t) = feeds s + feeds t := by
  rw [feeds, String.toList_append, List.count_append, feeds, feeds]

@[simp] theorem feedsOf_nil : feedsOf [] = 0 := rfl

@[simp] theorem feedsOf_cons (s : String) (ss : List String) : feedsOf (s :: ss) = feeds s + feedsOf ss := rfl

@[simp] theorem feedsOf_append (ss ts : List String) : feedsOf (ss ++ ts) = feedsOf ss + feedsOf ts := by
  induction ss with
  | nil => exact (Nat.zero_add _).symm
  | cons s ss ih => rw [List.cons_append, feedsOf_cons, feedsOf_cons, ih, Nat.add_assoc]

theorem feedsOf_eq_zero {ss : List String} : feedsOf ss = 0 ↔ ∀ s ∈ ss, '\n' ∉ s.toList := by
  induction ss with
  | nil => simp
  | cons s ss ih => rw [feedsOf_cons, Nat.add_eq_zero_iff, ih, feeds_eq_zero, List.forall_mem_cons]

/-- Rows that each have the line feeds of some names have those of all of them. -/
theorem feedsOf_of_forall₂ {α : Type} {names : α → List String} {rows : List String} {items : List α}
    (h : List.Forall₂ (fun row item => feeds row = feedsOf (names item)) rows items) :
    feedsOf rows = feedsOf (items.flatMap names) := by
  induction h with
  | nil => rfl
  | cons hrow _ ih => rw [feedsOf_cons, hrow, ih, List.flatMap_cons, feedsOf_append]

/-- Rows between line feeds: there is one line feed less than there are rows. -/
theorem feeds_intercalate {row : String} {rows : List String} :
    feeds ("\n".intercalate (row :: rows)) = rows.length + feedsOf (row :: rows) := by
  induction rows generalizing row with
  | nil => simp
  | cons next rows ih =>
    have hfeed : feeds "\n" = 1 := rfl
    rw [String.intercalate_cons_cons, feeds_append, feeds_append, ih, hfeed, List.length_cons,
      feedsOf_cons row]
    omega

/-! ## Texts without line feeds -/

@[simp] theorem feeds_pushn (n : Nat) : feeds ("".pushn ' ' n) = 0 := by
  rw [String.pushn_eq_repeat_push]
  induction n with
  | zero => rfl
  | succ n ih => rw [Nat.repeat, feeds, String.toList_push, List.count_append, ← feeds, ih]; rfl

@[simp] theorem feeds_repr (n : Nat) : feeds n.repr = 0 := by
  rw [feeds_eq_zero, ← Nat.toString_eq_repr, Json.toList_toString]
  intro hmem
  exact absurd (Json.all_isDigit_toDigits n _ hmem) (by decide)

@[simp] theorem feeds_repr_int (i : Int) : feeds i.repr = 0 := by
  cases i with
  | ofNat n => exact feeds_repr n
  | negSucc n =>
    have hminus : feeds "-" = 0 := rfl
    rw [Int.repr, feeds_append, hminus, feeds_repr]

/-- An escaped text stays on its line. -/
@[simp] theorem feeds_escape (s : String) : feeds (escape s) = 0 := by
  rw [feeds_eq_zero, escape, String.toList_ofList, List.mem_flatMap]
  rintro ⟨c, -, hc⟩
  unfold escapeChar at hc
  split at hc
  · simp at hc
  · simp at hc
  · simp at hc
  · next hne _ _ => exact hne (List.mem_singleton.1 hc).symm

/-! ## Lines -/

/-- The lines of characters. -/
def splitLines : List Char → List (List Char)
  | [] => []
  | c :: cs =>
    if c = '\n' then [] :: splitLines cs
    else
      match splitLines cs with
      | [] => [[c]]
      | line :: lines => (c :: line) :: lines

/-- The lines of a text, without the line feeds that end them. -/
def lines (s : String) : List String :=
  (splitLines s.toList).map String.ofList

/-- Rows one below the other, each of them ended. -/
def ended (rows : List String) : String :=
  String.join (rows.map (· ++ "\n"))

theorem ended_cons (row : String) (rows : List String) : ended (row :: rows) = row ++ "\n" ++ ended rows := by
  rw [ended, List.map_cons, String.join_cons, ended]

theorem ended_append (rows rows' : List String) : ended (rows ++ rows') = ended rows ++ ended rows' := by
  rw [ended, List.map_append, String.join_append, ended, ended]

/-- What ends with its first line feed is a line, and the lines after it stay as they are. -/
theorem splitLines_append {line : List Char} (h : '\n' ∉ line) (rest : List Char) :
    splitLines (line ++ '\n' :: rest) = line :: splitLines rest := by
  induction line with
  | nil => rfl
  | cons c line ih =>
    rw [List.mem_cons, not_or] at h
    rw [List.cons_append, splitLines, if_neg (Ne.symm h.1), ih h.2]

theorem splitLines_of_notMem {c : Char} {line : List Char} (h : '\n' ∉ c :: line) :
    splitLines (c :: line) = [c :: line] := by
  induction line generalizing c with
  | nil => rw [splitLines, if_neg (by rintro rfl; simp at h)]; rfl
  | cons d line ih =>
    rw [List.mem_cons, not_or] at h
    rw [splitLines, if_neg (Ne.symm h.1), ih h.2]

/-- Each line feed before another one ends a line of its own. -/
theorem length_splitLines_append (cs rest : List Char) :
    (splitLines (cs ++ '\n' :: rest)).length = cs.count '\n' + 1 + (splitLines rest).length := by
  induction cs with
  | nil => rw [List.nil_append, splitLines, if_pos rfl, List.length_cons, List.count_nil]; omega
  | cons c cs ih =>
    rw [List.cons_append, splitLines]
    split
    · next hc => rw [List.length_cons, ih, hc, List.count_cons_self]; omega
    · next hc =>
      rw [List.count_cons_of_ne hc]
      split
      · next hnil => rw [hnil, List.length_nil] at ih; omega
      · next hcons => rw [hcons] at ih; exact ih

theorem toList_ended_cons (row : String) (rows : List String) :
    (ended (row :: rows)).toList = row.toList ++ '\n' :: (ended rows).toList := by
  rw [ended_cons, String.toList_append, String.toList_append, List.append_assoc]
  rfl

/-- Rows that are ended have a line each, and one more for each line feed in them. -/
theorem length_lines_ended (rows : List String) :
    (lines (ended rows)).length = rows.length + feedsOf rows := by
  rw [lines, List.length_map]
  induction rows with
  | nil => rfl
  | cons row rows ih =>
    rw [toList_ended_cons, length_splitLines_append, ih, List.length_cons, feedsOf_cons, feeds]
    omega

/-- Rows without line feeds are the lines when they are ended. -/
theorem lines_ended {rows : List String} (h : feedsOf rows = 0) : lines (ended rows) = rows := by
  rw [feedsOf_eq_zero] at h
  rw [lines]
  induction rows with
  | nil => rfl
  | cons row rows ih =>
    rw [toList_ended_cons, splitLines_append (h row List.mem_cons_self), List.map_cons,
      ih fun s hs => h s (List.mem_cons_of_mem _ hs), String.ofList_toList]

/-- Rows without line feeds are the lines when they stand between line feeds, unless the last is empty. -/
theorem lines_intercalate {rows : List String} (h : feedsOf rows = 0) (hne : ∀ row ∈ rows, row ≠ "") :
    lines ("\n".intercalate rows) = rows := by
  rw [feedsOf_eq_zero] at h
  induction rows with
  | nil => rfl
  | cons row rows ih =>
    have hrow := h row List.mem_cons_self
    cases rows with
    | nil =>
      obtain ⟨c, cs, hcs⟩ : ∃ c cs, row.toList = c :: cs :=
        List.exists_cons_of_ne_nil fun hnil =>
          hne row List.mem_cons_self (String.toList_inj.1 (hnil.trans String.toList_empty.symm))
      rw [String.intercalate_singleton, lines, hcs, splitLines_of_notMem (hcs ▸ hrow), ← hcs,
        List.map_singleton, String.ofList_toList]
    | cons next rows =>
      have hrest := ih (fun s hs => h s (List.mem_cons_of_mem _ hs))
        (fun s hs => hne s (List.mem_cons_of_mem _ hs))
      rw [lines] at hrest ⊢
      have htext : ("\n".intercalate (row :: next :: rows)).toList =
          row.toList ++ '\n' :: ("\n".intercalate (next :: rows)).toList := by
        rw [String.intercalate_cons_cons, String.toList_append, String.toList_append, List.append_assoc]
        rfl
      rw [htext, splitLines_append hrow, List.map_cons, hrest, String.ofList_toList]

end GraphLexer.Text
