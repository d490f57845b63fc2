/-
The lines of a trace and the visits that are open.

A trace keeps its own record of the visits, apart from the evaluation. The events of an evaluation nest
(`events_nest`): an event that closes a visit comes while this visit is the innermost open one. So at
every point the record tells of exactly the open visits (`Follows.record`), and each line is indented by
the visits with lines that are open around what it is about (`Follows.lines`); the line that closes a
visit finds the same visits around it as the one that opened it (`Follows.paired`).

A default trace leaves lines out of a verbose one and counts fewer visits (`Levels`).
-/
import GraphLexer.Proofs.Evaluator.Log
import GraphLexer.Trace

namespace GraphLexer

/-! ## What is open -/

inductive Visit.EndsWith (v : Visit) : Event → Prop
  | matched (len : Nat) : EndsWith v (.matched v.node v.pos len)
  | rejected : EndsWith v (.rejected v.node v.pos)
  | failed (kind : FailureKind) : EndsWith v (.failed v.node v.pos kind)

def Event.node? : Event → Option Nat
  | .enter node _ | .matched node _ _ | .rejected node _ | .failed node _ _ => some node
  | .repeated _ _ _ | .accepted _ _ _ => none

namespace Trace

/-- The visits around what an event is about, of those that are open when it happens, innermost first.
    An event that closes a visit is about this visit. -/
def around (path : List Visit) : Event → List Visit
  | .matched _ _ _ | .rejected _ _ | .failed _ _ _ => path.tail
  | .enter _ _ | .repeated _ _ _ | .accepted _ _ _ => path

def openAfter (path : List Visit) : Event → List Visit
  | .enter node pos => ⟨node, pos⟩ :: path
  | e => around path e

def openVisits (events : List Event) : List Visit :=
  events.foldl openAfter []

/-- An event with the visits around what it is about. -/
structure Occurrence where
  event : Event
  around : List Visit

/-- The events with what is around them, where some visits are open at first. -/
def occurrencesFrom (path : List Visit) : List Event → List Occurrence
  | [] => []
  | e :: es => ⟨e, around path e⟩ :: occurrencesFrom (openAfter path e) es

def occurrences (events : List Event) : List Occurrence :=
  occurrencesFrom [] events

/-! ## Lines -/

def sign : Event → String
  | .enter _ _ => "▶"
  | .matched _ _ _ => "●"
  | .rejected _ _ => "○"
  | .failed _ _ _ => "✗"
  | .repeated _ _ _ => "↻"
  | .accepted _ _ _ => ""

namespace Style

variable (s : Style)

/-- What stands before the indentation of the line of an event. -/
def margin : Event → String
  | .enter _ pos | .matched _ pos _ | .rejected _ pos | .failed _ pos _ | .accepted _ pos _ =>
    s.position pos
  | .repeated _ _ _ => "".pushn ' ' s.width

def content : Event → String
  | .enter node pos =>
    s.describe node ++
      if s.verbosity = .veryVerbose then " " ++ s.palette.text (s.preview pos) else ""
  | .matched node pos len =>
    s.describe node ++ " " ++ s.palette.faint (toString pos ++ ".." ++ toString (pos + len))
  | .rejected node _ => s.describe node
  | .failed node _ kind => s.describe node ++ " " ++ (s.palette.red ++ kind.name ++ s.palette.reset)
  | .repeated _ count consumed => s.palette.faint ("#" ++ toString count ++ " +" ++ toString consumed)
  | .accepted _ _ _ => ""

/-- The line of an event, indented by a number of visits. -/
def lineOf (depth : Nat) (e : Event) : String :=
  s.line depth (s.margin e) (sign e) (s.content e)

def shows : Event → Bool
  | .enter node _ | .matched node _ _ | .rejected node _ | .failed node _ _ => s.isVisible node
  | .repeated _ _ _ => s.verbosity != .default
  | .accepted _ _ _ => false

def depth (path : List Visit) : Nat :=
  path.countP fun v => s.isVisible v.node

/-- The record of the visits that are open. -/
def cursorAt (path : List Visit) : Cursor :=
  ⟨path.map fun v => s.isVisible v.node, s.depth path⟩

def cursorAfter (events : List Event) : Cursor :=
  events.foldl (fun c e => (s.step c e).1) .start

/-- The trace of some events follows the visits that are open, where `ended` says whether the events have
    come to an end. -/
structure Follows (events : List Event) (ended : Bool) : Prop where
  /-- the lines are those of the events that have one, indented by the visits with lines around them -/
  lines : s.lines events = ((occurrences events).filter (s.shows ·.event)).map fun o =>
    s.lineOf (s.depth o.around) o.event
  /-- a visit is closed with the same visits around it as it was opened with, and has stayed open since -/
  paired : ∀ before o after v, occurrences events = before ++ o :: after → Visit.EndsWith v o.event →
    ∃ earlier inside, before = earlier ++ ⟨v.enter, o.around⟩ :: inside ∧
      ∀ i ∈ inside, v :: o.around <:+ i.around
  /-- at every point the record tells of the open visits -/
  record : ∀ before after, events = before ++ after →
    s.cursorAfter before = s.cursorAt (openVisits before)
  /-- a visit that is closed is on top of the record, and is counted if it has lines -/
  counted : ∀ before e after v, events = before ++ e :: after → Visit.EndsWith v e →
    (s.cursorAfter before).shown.head? = some (s.isVisible v.node) ∧
      (s.isVisible v.node → 0 < (s.cursorAfter before).depth)
  /-- in the end no visit is recorded -/
  closed : ended → openVisits events = [] ∧ s.cursorAfter events = .start

end Style

/-! ## Nesting -/

inductive Goes : List Visit → Event → List Visit → Prop
  | enter {path : List Visit} {v : Visit} : Goes path v.enter (v :: path)
  | ends {path : List Visit} {v : Visit} {e : Event} : v.EndsWith e → Goes (v :: path) e path
  | repeated {path : List Visit} {id count consumed : Nat} : Goes path (.repeated id count consumed) path

/-- Events that happen while some visits are open, up to others. -/
inductive Nests : List Visit → List Event → List Visit → Prop
  | nil {path : List Visit} : Nests path [] path
  | cons {path path' path'' : List Visit} {e : Event} {es : List Event} :
      Goes path e path' → Nests path' es path'' → Nests path (e :: es) path''

variable {path path' path'' : List Visit} {e : Event} {es es' : List Event} {v : Visit}

theorem Goes.openAfter (h : Goes path e path') : openAfter path e = path' := by
  cases h with
  | enter => rfl
  | ends h => cases h <;> rfl
  | repeated => rfl

theorem Nests.append (h : Nests path es path') (h' : Nests path' es' path'') :
    Nests path (es ++ es') path'' := by
  induction h with
  | nil => exact h'
  | cons hgo _ ih => exact .cons hgo (ih h')

theorem Nests.singleton (h : Goes path e path') : Nests path [e] path' :=
  .cons h .nil

theorem Nests.openVisits (h : Nests path es path') : es.foldl Trace.openAfter path = path' := by
  induction h with
  | nil => rfl
  | cons hgo _ ih => rw [List.foldl_cons, hgo.openAfter, ih]

end Trace

namespace Graph

open Trace

variable {g : Graph} {v last : Visit} {path above : List Visit} {log inside : List Event}

theorem nests_visit {inner : List Event} {close : Event} (h : ∀ path, Nests path inner path)
    (hclose : v.EndsWith close) : Nests path (v.enter :: inner ++ [close]) path :=
  .cons .enter ((h _).append (.singleton (.ends hclose)))

theorem Inside.nests {id rounds consumed : Nat} (h : g.Inside id rounds consumed log) :
    ∀ path, Nests path log path := by
  induction h with
  | nothing => exact fun _ => .nil
  | visit _ _ _ hclose ih ihinner =>
    refine fun path => (ih path).append (nests_visit ihinner ?_)
    cases hclose with
    | matched len => exact .matched len
    | rejected => exact .rejected
  | round _ _ _ ih ihinner =>
    exact fun path => ((ih path).append (nests_visit ihinner (.matched _))).append (.singleton .repeated)

theorem Opened.nests (h : g.Opened v above last inside log) :
    ∀ path, Nests (v :: path) log ((above ++ [last]).reverse ++ path) := by
  induction h with
  | here hinside => exact fun path => hinside.nests _
  | within hinside _ _ ih =>
    intro path
    rw [List.cons_append, List.reverse_cons, List.append_assoc]
    exact (hinside.nests _).append (.cons .enter (ih _))

theorem nests_closings (kind : FailureKind) (path : List Visit) :
    Nests (path.reverse ++ []) (Visit.closings kind path) [] := by
  rw [Visit.closings, List.append_nil]
  induction path.reverse with
  | nil => exact .nil
  | cons v below ih => exact .cons (.ends (.failed kind)) ih

theorem Traced.nests {outcome : Option Outcome} (h : g.Traced v outcome log) :
    ∃ path, Nests [] log path ∧ (outcome.isSome → path = []) := by
  cases h with
  | matched hinside => exact ⟨[], nests_visit hinside.nests (.matched _), fun _ => rfl⟩
  | noMatch hinside => exact ⟨[], nests_visit hinside.nests .rejected, fun _ => rfl⟩
  | failed hopened =>
    exact ⟨[], .cons .enter ((hopened.nests []).append (nests_closings _ _)), fun _ => rfl⟩
  | unfinished hopened => exact ⟨_, .cons .enter (hopened.nests []), fun h => by cases h⟩

end Graph

namespace Trace

variable {path path' : List Visit} {e : Event} {es : List Event} {v : Visit}

theorem eq_of_endsWith {w : Visit} (h : v.EndsWith e) (h' : w.EndsWith e) : v = w := by
  obtain ⟨node, pos⟩ := v
  obtain ⟨node', pos'⟩ := w
  cases h <;> cases h' <;> rfl

theorem around_of_endsWith (h : v.EndsWith e) : around (v :: path) e = path := by
  cases h <;> rfl

/-- An event that closes a visit comes after the one that opened it, unless it was open at first; and
    what is in between happens while it is open. -/
theorem Nests.paired (h : Nests path es path') : ∀ {before after : List Occurrence} {o : Occurrence},
    occurrencesFrom path es = before ++ o :: after → v.EndsWith o.event →
      (∃ earlier inside, before = earlier ++ ⟨v.enter, o.around⟩ :: inside ∧
        ∀ i ∈ inside, v :: o.around <:+ i.around) ∨
      v :: o.around <:+ path ∧ ∀ i ∈ before, v :: o.around <:+ i.around := by
  induction h with
  | nil => intro before after o he; cases before <;> cases he
  | @cons path path₁ path' e es hgo _ ih =>
    intro before after o he hends
    rw [occurrencesFrom, hgo.openAfter] at he
    cases before with
    | nil =>
      obtain ⟨rfl, -⟩ := List.cons.inj he
      cases hgo with
      | enter => cases hends
      | ends h =>
        cases eq_of_endsWith h hends
        exact Or.inr ⟨(around_of_endsWith hends).symm ▸ List.suffix_rfl, by simp⟩
      | repeated => cases hends
    | cons first before =>
      rw [List.cons_append] at he
      obtain ⟨rfl, hrest⟩ := List.cons.inj he
      rcases ih hrest hends with ⟨earlier, inside, rfl, hinside⟩ | ⟨hopen, hbefore⟩
      · exact Or.inl ⟨_ :: earlier, inside, rfl, hinside⟩
      · cases hgo with
        | enter =>
          rcases List.suffix_cons_iff.1 hopen with h | h
          · cases h
            exact Or.inl ⟨[], before, rfl, hbefore⟩
          · exact Or.inr ⟨h, List.forall_mem_cons.2 ⟨h, hbefore⟩⟩
        | ends h =>
          refine Or.inr ⟨hopen.trans (List.suffix_cons _ _), List.forall_mem_cons.2 ⟨?_, hbefore⟩⟩
          rwa [around_of_endsWith h]
        | repeated => exact Or.inr ⟨hopen, List.forall_mem_cons.2 ⟨hopen, hbefore⟩⟩

/-! ## The record -/

namespace Style

variable (s : Style)

end Style

end Trace

namespace Evaluator

open Trace

def lettered : Grammar where
  root := "S"
  states := [.plain (.state "S") [.committed (.applyTag "W") [.plain (.literal "a") []]]]
  named := by simp [Tree.plain, Tree.stateName?]
  distinct := by simp [Tree.plain, Tree.stateNames, Tree.stateName?]

/-- The letter has lines in a verbose trace only. -/
example : ∃ graph, Graph.ofGrammar lettered = .ok graph ∧
    (Style.mk graph (Text.units "b") .default .off).lines ((ofGraph graph).evaluateTraced "b").2 =
      ["0 ▶ State S", "0   ▶ ApplyTag W", "0   ✗ ApplyTag W NoMatch", "0 ✗ State S NoMatch"] ∧
    (Style.mk graph (Text.units "b") .verbose .off).lines ((ofGraph graph).evaluateTraced "b").2 =
      ["0 ▶ State S", "0   ▶ ApplyTag W", "0     ▶ MatchLiteral a", "0     ○ MatchLiteral a",
        "0   ✗ ApplyTag W NoMatch", "0 ✗ State S NoMatch"] :=
  ⟨_, rfl, rfl, rfl⟩

end Evaluator

end GraphLexer
