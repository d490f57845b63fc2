/-
Listings and the lines in them.

A listing of a grammar is made of rows: one for the root, an empty one before each state, and one for each
node (`Grammar.rows`). One of a forest has a row for each tag. Texts and patterns are escaped, so a row has
only the line feeds of the names in it, which are written as they are (`feeds_row`, `feeds_line`). A
listing therefore has a line for each row exactly if no name in it has a line feed (`listings_lines`).
-/
import GraphLexer.Grammar.Listing
import GraphLexer.Proofs.Graph.Preorder
import GraphLexer.Proofs.Tag.Places
import GraphLexer.Proofs.Text.Lines

namespace GraphLexer

open Text (feeds feedsOf lines)

/-! ## Colours -/

/-- The codes of a palette stay on their line. -/
structure Palette.OneLine (p : Palette) : Prop where
  blue : feeds p.blue = 0
  green : feeds p.green = 0
  red : feeds p.red = 0
  dim : feeds p.dim = 0
  reset : feeds p.reset = 0

theorem Palette.oneLine_ofBool (colored : Bool) : (ofBool colored).OneLine := by
  cases colored <;> exact ⟨rfl, rfl, rfl, rfl, rfl⟩

namespace Palette.OneLine

variable {p : Palette}

theorem name (h : p.OneLine) (s : String) : feeds (p.name s) = feeds s := by
  rw [Palette.name, Text.feeds_append, Text.feeds_append, h.blue, h.reset]
  omega

theorem text (h : p.OneLine) (s : String) : feeds (p.text s) = feeds s := by
  rw [Palette.text, Text.feeds_append, Text.feeds_append, Text.feeds_append, h.dim, h.green, h.reset]
  omega

theorem faint (h : p.OneLine) (s : String) : feeds (p.faint s) = feeds s := by
  rw [Palette.faint, Text.feeds_append, Text.feeds_append, h.dim, h.reset]
  omega

end Palette.OneLine

/-! ## Grammars -/

/-- The names that a listing shows for a node. -/
def Node.shownNames (n : Node) : List String :=
  n.stateMentions ++ n.tagMentions

theorem Repetition.feeds_suffix (r : Repetition) : feeds r.suffix = 0 := by
  have hrange : feeds r.range = 0 := by
    unfold range
    split
    · rfl
    · rfl
    · rfl
    · rfl
    all_goals
      simp only [Text.feeds_append, Nat.toString_eq_repr, Text.feeds_repr]
      rfl
  have hmark : feeds "?" = 0 := rfl
  rw [suffix]
  split
  · rw [Text.feeds_append, hrange, hmark]
  · exact hrange

theorem Node.feeds_boundsText (min max : Option UInt32) : feeds (boundsText min max) = 0 := by
  have hless : feeds " < " = 0 := rfl
  have hcode : feeds "charCode" = 0 := rfl
  cases min <;> cases max <;> simp [boundsText, hless, hcode]

/-- What is shown of a node has the line feeds of its names and no other ones. -/
theorem Node.feeds_label {p : Palette} (h : p.OneLine) (n : Node) :
    feeds (n.label p) = feedsOf n.shownNames := by
  have hquote : feeds "\"" = 0 := rfl
  have hslash : feeds "/" = 0 := rfl
  cases n with
  | state name => rw [label, h.name]; rfl
  | literal text => rw [label, Text.feeds_append, Text.feeds_append, h.text, Text.feeds_escape, hquote]; rfl
  | unicode min max => rw [label, feeds_boundsText]; rfl
  | regex pattern => rw [label, Text.feeds_append, Text.feeds_append, h.text, Text.feeds_escape, hslash]; rfl
  | subState target r => rw [label, h.name, content, Text.feeds_append, r.feeds_suffix]; rfl
  | applyTag tag => rw [label, h.name]; rfl

theorem Node.feeds_kindName (n : Node) : feeds n.kindName = 0 := by
  cases n <;> (rw [kindName]; rfl)

namespace Tree

variable {p : Palette}

/-- The row of one node. -/
def row (p : Palette) (depth : Nat) (commit : Bool) (node : Node) : String :=
  "".pushn ' ' (2 * depth)
    ++ (if commit then p.red ++ "!" ++ p.reset ++ " " else "")
    ++ p.faint node.kindName ++ " " ++ node.label p

theorem feeds_row (h : p.OneLine) (depth : Nat) (commit : Bool) (node : Node) :
    feeds (row p depth commit node) = feedsOf node.shownNames := by
  have hblank : feeds " " = 0 := rfl
  have hmark : feeds (if commit then p.red ++ "!" ++ p.reset ++ " " else "") = 0 := by
    have hsign : feeds "!" = 0 := rfl
    cases commit
    · rfl
    · simp [h.red, h.reset, hsign, hblank]
  simp only [row, Text.feeds_append, Text.feeds_pushn, hmark, h.faint, node.feeds_kindName, hblank,
    node.feeds_label h]
  omega

mutual

/-- The rows of a tree. -/
def rows (p : Palette) (depth : Nat) : Tree → List String
  | ⟨commit, node, transitions⟩ => row p depth commit node :: allRows p (depth + 1) transitions

/-- The rows of a list of trees. -/
def allRows (p : Palette) (depth : Nat) : List Tree → List String
  | [] => []
  | t :: ts => t.rows p depth ++ allRows p depth ts

end

mutual

theorem listing_eq : ∀ (depth : Nat) (t : Tree), t.listing p depth = Text.ended (t.rows p depth)
  | depth, ⟨commit, node, transitions⟩ => by
    rw [listing, listings_eq (depth + 1) transitions, rows, Text.ended_cons]
    rfl

theorem listings_eq : ∀ (depth : Nat) (ts : List Tree), listings p depth ts = Text.ended (allRows p depth ts)
  | _, [] => rfl
  | depth, t :: ts => by
    rw [listings, listing_eq depth t, listings_eq depth ts, allRows, Text.ended_append]

end

/-- A row is the one of a node, at some depth. -/
def Shows (p : Palette) (row : String) (t : Tree) : Prop :=
  ∃ depth, row = Tree.row p depth t.commit t.node

mutual

/-- The rows of a tree are those of its nodes, in preorder. -/
theorem rows_subtrees : ∀ (depth : Nat) (t : Tree), List.Forall₂ (Shows p) (t.rows p depth) t.subtrees
  | depth, ⟨commit, node, transitions⟩ => by
    rw [rows, subtrees]
    exact .cons ⟨depth, rfl⟩ (allRows_allSubtrees (depth + 1) transitions)

theorem allRows_allSubtrees : ∀ (depth : Nat) (ts : List Tree),
    List.Forall₂ (Shows p) (allRows p depth ts) (allSubtrees ts)
  | _, [] => .nil
  | depth, t :: ts => by
    rw [allRows, allSubtrees]
    exact List.rel_append (rows_subtrees depth t) (allRows_allSubtrees depth ts)

end

theorem length_rows (depth : Nat) (t : Tree) : (t.rows p depth).length = t.size :=
  (rows_subtrees depth t).length_eq.trans t.length_subtrees

theorem feedsOf_rows (h : p.OneLine) (depth : Nat) (t : Tree) :
    feedsOf (t.rows p depth) = feedsOf (t.subtrees.flatMap fun u => u.node.shownNames) := by
  refine Text.feedsOf_of_forall₂ ((rows_subtrees depth t).imp ?_)
  rintro row u ⟨depth, rfl⟩
  exact feeds_row h depth u.commit u.node

end Tree

namespace Grammar

variable {p : Palette}

/-- The names that a listing of a grammar shows. -/
def shownNames (g : Grammar) : List String :=
  g.root :: (Tree.allSubtrees g.states).flatMap fun t => t.node.shownNames

/-- The rows of a grammar: one for the root, and an empty one before each state. -/
def rows (p : Palette) (g : Grammar) : List String :=
  (p.faint "root:" ++ " " ++ p.name g.root) :: g.states.flatMap fun t => "" :: t.rows p 0

theorem listing_eq (p : Palette) (g : Grammar) : g.listing p = Text.ended (g.rows p) := by
  have hstates : ∀ ts : List Tree, String.join (ts.map fun t => "\n" ++ t.listing p 0) =
      Text.ended (ts.flatMap fun t => "" :: t.rows p 0) := by
    intro ts
    induction ts with
    | nil => rfl
    | cons t ts ih =>
      rw [List.map_cons, String.join_cons, ih, t.listing_eq, List.flatMap_cons, Text.ended_append,
        Text.ended_cons, String.empty_append]
  rw [listing, hstates, rows, Text.ended_cons]

theorem length_rows (p : Palette) (g : Grammar) : (g.rows p).length = 1 + g.size + g.nodeCount := by
  have hstates : ∀ ts : List Tree, (ts.flatMap fun t => "" :: t.rows p 0).length =
      ts.length + Tree.sizes ts := by
    intro ts
    induction ts with
    | nil => rfl
    | cons t ts ih =>
      rw [List.flatMap_cons, List.length_append, ih, List.length_cons, t.length_rows, List.length_cons,
        Tree.sizes]
      omega
  rw [rows, List.length_cons, hstates, size, nodeCount]
  omega

theorem feedsOf_rows (h : p.OneLine) (g : Grammar) : feedsOf (g.rows p) = feedsOf g.shownNames := by
  have hroot : feeds (p.faint "root:" ++ " " ++ p.name g.root) = feeds g.root := by
    have hword : feeds "root:" = 0 := rfl
    have hblank : feeds " " = 0 := rfl
    rw [Text.feeds_append, Text.feeds_append, h.faint, h.name, hword, hblank]
    omega
  have hstates : ∀ ts : List Tree, feedsOf (ts.flatMap fun t => "" :: t.rows p 0) =
      feedsOf ((Tree.allSubtrees ts).flatMap fun u => u.node.shownNames) := by
    intro ts
    induction ts with
    | nil => rfl
    | cons t ts ih =>
      have hempty : feeds "" = 0 := rfl
      rw [List.flatMap_cons, Text.feedsOf_append, ih, Text.feedsOf_cons, hempty, Nat.zero_add,
        t.feedsOf_rows h, Tree.allSubtrees, List.flatMap_append, Text.feedsOf_append]
  rw [rows, Text.feedsOf_cons, hroot, hstates, shownNames, Text.feedsOf_cons]

end Grammar

/-! ## Forests -/

namespace Tag

variable {p : Palette}

/-- The line of a tag has the line feeds of its name and no other ones. -/
theorem feeds_line (h : p.OneLine) (source : Option (List UInt16)) (depth : Nat) (t : Tag String) :
    feeds (line p source depth t) = feeds t.name := by
  have hblank : feeds " " = 0 := rfl
  have hdots : feeds ".." = 0 := rfl
  have hquote : feeds "\"" = 0 := rfl
  cases source with
  | none => simp [line, h.name, h.faint, hblank, hdots]
  | some units => simp [line, quoted, h.name, h.faint, h.text, hblank, hdots, hquote]

/-- The line of a tag is not empty. -/
theorem line_ne_empty (source : Option (List UInt16)) (depth : Nat) (t : Tag String) :
    line p source depth t ≠ "" := by
  intro h
  have hmem : ' ' ∈ (line p source depth t).toList := by simp [line]
  rw [h] at hmem
  cases hmem

/-- A row is the line of a tag, at some depth. -/
def Shows (p : Palette) (source : Option (List UInt16)) (row : String) (t : Tag String) : Prop :=
  ∃ depth, row = line p source depth t

/-- The lines of a forest are those of its tags, in the order of the walk. -/
theorem forestLines_walk (source : Option (List UInt16)) (depth : Nat) (ts : List (Tag String)) :
    List.Forall₂ (Shows p source) (forestLines p source depth ts) (walk ts) := by
  rw [forestLines_eq_places, ← map_snd_flatMap_places, List.forall₂_map_left_iff,
    List.forall₂_map_right_iff, List.forall₂_same]
  rintro ⟨place, t⟩ -
  exact ⟨depth + place.length, rfl⟩

theorem length_forestLines (source : Option (List UInt16)) (depth : Nat) (ts : List (Tag String)) :
    (forestLines p source depth ts).length = sizes ts :=
  (forestLines_walk source depth ts).length_eq.trans (length_walk ts)

theorem feedsOf_forestLines (h : p.OneLine) (source : Option (List UInt16)) (depth : Nat)
    (ts : List (Tag String)) : feedsOf (forestLines p source depth ts) = feedsOf (allNames ts) := by
  have hnames : (walk ts).flatMap (fun t => [t.name]) = allNames ts := by
    rw [← map_name_walk, List.map_eq_flatMap]
  rw [← hnames]
  refine Text.feedsOf_of_forall₂ ((forestLines_walk source depth ts).imp ?_)
  rintro row t ⟨depth, rfl⟩
  rw [feeds_line h, Text.feedsOf_cons, Text.feedsOf_nil, Nat.add_zero]

theorem feeds_listing (h : p.OneLine) (source : Option String) {ts : List (Tag String)} (hne : ts ≠ []) :
    feeds (listing p source ts) = sizes ts - 1 + feedsOf (allNames ts) := by
  have hlength := length_forestLines (p := p) (source.map Text.units) 0 ts
  have hfeeds := feedsOf_forestLines h (source.map Text.units) 0 ts
  have hpos := sizes_pos hne
  rw [listing]
  cases hrows : forestLines p (source.map Text.units) 0 ts with
  | nil =>
    rw [hrows, List.length_nil] at hlength
    omega
  | cons row rows =>
    rw [hrows, List.length_cons] at hlength
    rw [hrows] at hfeeds
    rw [Text.feeds_intercalate, hfeeds]
    omega

/-- The lines of a listing are those of its tags if no name has a line feed. -/
theorem lines_listing (h : p.OneLine) (source : Option String) {ts : List (Tag String)}
    (hclean : feedsOf (allNames ts) = 0) :
    Text.lines (listing p source ts) = forestLines p (source.map Text.units) 0 ts := by
  have hshown : List.Forall₂ (fun row t => row ≠ "" ∧ Shows p (source.map Text.units) row t)
      (forestLines p (source.map Text.units) 0 ts) (walk ts) := by
    refine (forestLines_walk (source.map Text.units) 0 ts).imp ?_
    rintro row t ⟨depth, rfl⟩
    exact ⟨line_ne_empty _ depth t, depth, rfl⟩
  have hne := ((List.forall₂_and_left _ _).1 hshown).1
  exact Text.lines_intercalate ((feedsOf_forestLines h _ 0 ts).trans hclean) hne

end Tag

/-! ## One line for each item -/

/-- **A listing has one line for each item exactly if no name that it shows has a line feed**; each of these
    makes one line more. The items of a grammar are its root, a blank before each state, and its nodes. Those
    of a forest are its tags, and line feeds stand between their lines only. -/
theorem listings_lines (g : Grammar) (ts : List (Tag String)) (source : Option String) (colored : Bool) :
    ((lines (g.listing (.ofBool colored))).length = 1 + g.size + g.nodeCount + feedsOf g.shownNames ∧
      ((lines (g.listing (.ofBool colored))).length = 1 + g.size + g.nodeCount ↔
        ∀ name ∈ g.shownNames, '\n' ∉ name.toList) ∧
      ((∀ name ∈ g.shownNames, '\n' ∉ name.toList) →
        lines (g.listing (.ofBool colored)) = g.rows (.ofBool colored))) ∧
    (ts ≠ [] →
      feeds (Tag.listing (.ofBool colored) source ts) =
        Tag.total ts - 1 + feedsOf (Tag.allNames ts) ∧
      (feeds (Tag.listing (.ofBool colored) source ts) = Tag.total ts - 1 ↔
        ∀ name ∈ Tag.allNames ts, '\n' ∉ name.toList) ∧
      ((∀ name ∈ Tag.allNames ts, '\n' ∉ name.toList) →
        lines (Tag.listing (.ofBool colored) source ts) =
          Tag.forestLines (.ofBool colored) (source.map Text.units) 0 ts)) := by
  have hp := Palette.oneLine_ofBool colored
  rw [← Text.feedsOf_eq_zero, ← Text.feedsOf_eq_zero, Tag.total_eq_sizes]
  refine ⟨?_, fun hne => ?_⟩
  · have hlength : (lines (g.listing (.ofBool colored))).length =
        1 + g.size + g.nodeCount + feedsOf g.shownNames := by
      rw [g.listing_eq, Text.length_lines_ended, g.length_rows, g.feedsOf_rows hp]
    refine ⟨hlength, by omega, fun hclean => ?_⟩
    rw [g.listing_eq, Text.lines_ended ((g.feedsOf_rows hp).trans hclean)]
  · have hfeeds := Tag.feeds_listing hp source hne
    exact ⟨hfeeds, by omega, Tag.lines_listing hp source⟩

/-- A text and a pattern that have line feeds. -/
def escaped : Grammar where
  root := "S"
  states := [
    .plain (.state "S") [.committed (.literal "a\n") [.plain (.applyTag "tag\t1") []], .plain (.regex "\n") []],
    .plain (.state "T") [.plain (.subState "S" (.zeroOrMore true)) []]]
  named := by simp [Tree.plain, Tree.stateName?]
  distinct := by simp [Tree.plain, Tree.stateNames, Tree.stateName?]

/-- Line feeds in a text, in a pattern and in the source make no lines. -/
theorem escaped_lines : (lines (escaped.listing .off)).length = 9 ∧
    (∀ name ∈ escaped.shownNames, '\n' ∉ name.toList) ∧
    [(⟨"A", 0, 3, [⟨"B", 1, 1, []⟩]⟩ : Tag String)] ≠ [] ∧
    feeds (Tag.listing .on (some "a\nb") [⟨"A", 0, 3, [⟨"B", 1, 1, []⟩]⟩]) = 1 := by
  have hnames : ∀ name ∈ escaped.shownNames, '\n' ∉ name.toList := by decide +kernel
  have htags : ∀ name ∈ Tag.allNames [(⟨"A", 0, 3, [⟨"B", 1, 1, []⟩]⟩ : Tag String)], '\n' ∉ name.toList := by
    decide +kernel
  have hne : [(⟨"A", 0, 3, [⟨"B", 1, 1, []⟩]⟩ : Tag String)] ≠ [] := List.cons_ne_nil _ _
  refine ⟨(listings_lines escaped [] none false).1.2.1.2 hnames, hnames, hne, ?_⟩
  have hfeeds := ((listings_lines escaped _ (some "a\nb") true).2 hne).2.1.2 htags
  rw [Tag.total_eq_sizes] at hfeeds
  exact hfeeds

/-- A tag with a line feed in its name. -/
def torn : Grammar where
  root := "S"
  states := [.plain (.state "S") [.plain (.applyTag "x\ny") []]]
  named := by simp [Tree.plain, Tree.stateName?]
  distinct := by simp [Tree.plain, Tree.stateNames, Tree.stateName?]

/-- **A name with a line feed takes two lines**, in a listing of its grammar and in one of its tags. -/
theorem torn_lines : (lines (torn.listing .off)).length ≠ 1 + torn.size + torn.nodeCount ∧
    feeds (Tag.listing .off (some "a") [⟨"x\ny", 0, 1, []⟩]) ≠
      Tag.total [(⟨"x\ny", 0, 1, []⟩ : Tag String)] - 1 := by
  refine ⟨by decide +kernel, ?_⟩
  rw [Tag.total_eq_sizes]
  decide +kernel

end GraphLexer
