/-
The events of an attempt.

They form brackets: `Inside` says which events there are directly inside the visit of a node, the visits
within it being closed, and `Opened` which visits are open after some events. Every visit leaves such
events (`visited_visit`): one that matches or rejects is closed; one that fails was left open at some
visit, from which the failure closes all visits up to it, and has the names of these visits in its stacks;
and one that was cut off is still open.
-/
import GraphLexer.Proofs.Attempt.Perform
import GraphLexer.Proofs.Attempt.Result

namespace GraphLexer

/-! ## Brackets -/

/-- Whether a tracer is told of an event. -/
def Event.isTold : Event → Bool
  | .accepted _ _ _ => false
  | _ => true

/-- The events that a tracer is told of. -/
def told (log : List Event) : List Event :=
  log.filter Event.isTold

@[simp] theorem told_append (log log' : List Event) : told (log ++ log') = told log ++ told log' :=
  List.filter_append ..

@[simp] theorem told_accepted (id pos len : Nat) (log : List Event) :
    told (.accepted id pos len :: log) = told log := rfl

structure Visit where
  node : Nat
  pos : Nat
  deriving DecidableEq, Repr

namespace Visit

def enter (v : Visit) : Event :=
  .enter v.node v.pos

def failed (kind : FailureKind) (v : Visit) : Event :=
  .failed v.node v.pos kind

/-- The events that close visits when a failure passes through them, innermost first. The visits are
    given outermost first. -/
def closings (kind : FailureKind) (path : List Visit) : List Event :=
  path.reverse.map (failed kind)

/-- An event closes a visit without a failure. -/
inductive Closes (v : Visit) : Event → Prop
  | matched (len : Nat) : Closes v (.matched v.node v.pos len)
  | rejected : Closes v (.rejected v.node v.pos)

end Visit

namespace Graph

def Invokes (g : Graph) (id next : Nat) : Prop :=
  ∃ node target r, g.node? id = some node ∧ node.step = .subState target r ∧ g.entryOf target = some next

/-- The visit of a node may lead to the visit of another one. -/
def Leads (g : Graph) (id next : Nat) : Prop :=
  (∃ node, g.node? id = some node ∧ next ∈ node.transitions) ∨ g.Invokes id next

/-- The events directly inside the visit of a node, with all visits within it. In an invocation `rounds`
    rounds are finished, which took `consumed` units. -/
inductive Inside (g : Graph) : Nat → Nat → Nat → List Event → Prop
  | nothing {id : Nat} : Inside g id 0 0 []
  | visit {id rounds consumed rounds' consumed' : Nat} {log inner : List Event} {v : Visit} {close : Event} :
      Inside g id rounds consumed log → g.Leads id v.node → Inside g v.node rounds' consumed' inner →
      v.Closes close → Inside g id rounds consumed (log ++ (v.enter :: inner ++ [close]))
  /-- the invoked state has matched once more -/
  | round {id rounds consumed rounds' consumed' len : Nat} {log inner : List Event} {v : Visit} :
      Inside g id rounds consumed log → g.Invokes id v.node → Inside g v.node rounds' consumed' inner →
      Inside g id (rounds + 1) (consumed + len) (log ++ (v.enter :: inner ++ [.matched v.node v.pos len])
        ++ [.repeated id (rounds + 1) (consumed + len)])

/-- After the events `log` inside the visit `v`, the visits `above`, outermost first, and then `last` are
    open. The first of them is `v` itself, and `inside` are the events directly inside the last one. -/
inductive Opened (g : Graph) : Visit → List Visit → Visit → List Event → List Event → Prop
  | here {v : Visit} {rounds consumed : Nat} {log : List Event} :
      Inside g v.node rounds consumed log → Opened g v [] v log log
  | within {v next last : Visit} {above : List Visit} {rounds consumed : Nat}
      {log inside inner : List Event} :
      Inside g v.node rounds consumed log → g.Leads v.node next.node →
      Opened g next above last inside inner → Opened g v (v :: above) last inside (log ++ next.enter :: inner)

/-- The visits of some nodes at a position, one after the other, which all reject. -/
inductive Rejections (g : Graph) (pos : Nat) : List Nat → List Event → Prop
  | nil : Rejections g pos [] []
  | cons {id rounds consumed : Nat} {ids : List Nat} {inner log : List Event} :
      Inside g id rounds consumed inner → Rejections g pos ids log →
      Rejections g pos (id :: ids) (.enter id pos :: inner ++ [.rejected id pos] ++ log)

/-! ## Stacks -/

def stateOf (g : Graph) (v : Visit) : Option Nat :=
  match (g.node? v.node).map GraphNode.step with
  | some (.state name) => some name
  | _ => none

def tagOf (g : Graph) (v : Visit) : Option Nat :=
  match (g.node? v.node).map GraphNode.step with
  | some (.applyTag tag) => some tag
  | _ => none

/-- The visit of a committed node that puts a tag around a match, but whose transitions have all
    rejected. -/
def Exhausted (g : Graph) (v : Visit) (inside : List Event) (tag : Nat) : Prop :=
  ∃ node, g.node? v.node = some node ∧ node.step = .applyTag tag ∧ node.commit = true ∧
    node.transitions ≠ [] ∧ g.Rejections v.pos node.transitions inside

/-- What a failure that was raised at a visit has in its stack of tags for this visit itself. -/
def OwnTags (g : Graph) (v : Visit) (inside : List Event) (own : List Nat) : Prop :=
  (∃ tag, g.Exhausted v inside tag ∧ own = [tag]) ∨ (∀ tag, ¬ g.Exhausted v inside tag) ∧ own = []

/-- The stacks of a failure that was raised at a visit, below others. -/
structure Stacked (g : Graph) (above : List Visit) (last : Visit) (inside : List Event) (f : Failure) :
    Prop where
  states : f.states.reverse = above.filterMap g.stateOf
  tags : ∃ own, g.OwnTags last inside own ∧ f.tags.reverse = above.filterMap g.tagOf ++ own

end Graph

/-! ## Events before and after -/

namespace Result

variable {before log : List Event} {Q : List Event → Verdict → Prop} {r : Result}
  {onMatch : Partial → Nat → Result} {onReject : Nat → Result}

/-- After some events, a result leaves events and a verdict of a kind. -/
def Leaves (before : List Event) (Q : List Event → Verdict → Prop) (r : Result) : Prop :=
  Q (before ++ told r.log) r.verdict

theorem leaves_of_log (h : told r.log = []) : r.Leaves before Q ↔ Q before r.verdict := by
  rw [Leaves, h, List.append_nil]

theorem leaves_after : (r.after log).Leaves before Q ↔ r.Leaves (before ++ told log) Q := by
  rw [Leaves, Leaves, verdict_after, after, told_append, List.append_assoc]

theorem leaves_bind {P : List Event → Verdict → Prop} (h : r.Leaves before P)
    (matched : ∀ p t log, P log (.matched p) → (onMatch p t).Leaves log Q)
    (rejected : ∀ t log, P log .rejected → (onReject t).Leaves log Q)
    (failed : ∀ f log, P log (.failed f) → Q log (.failed f))
    (unfinished : ∀ log, P log .unfinished → Q log .unfinished) :
    (r.bind onMatch onReject).Leaves before Q := by
  unfold Leaves at h
  cases hv : r.verdict with
  | matched p => rw [bind_of_matched hv, leaves_after]; exact matched p _ _ (hv ▸ h)
  | rejected => rw [bind_of_rejected hv, leaves_after]; exact rejected _ _ (hv ▸ h)
  | failed f => rw [bind_of_failed hv, Leaves, hv]; exact failed f _ (hv ▸ h)
  | unfinished => rw [bind_of_unfinished hv, Leaves, hv]; exact unfinished _ (hv ▸ h)

theorem leaves_orElse (h : r.Leaves before Q)
    (rejected : ∀ t log, Q log .rejected → (onReject t).Leaves log Q) :
    (r.orElse onReject).Leaves before Q :=
  leaves_bind h (fun _ _ _ hp => (leaves_of_log rfl).2 hp) rejected (fun _ _ hf => hf) fun _ hu => hu

end Result

namespace Graph

/-! ## What a visit leaves -/

variable {g : Graph} {v : Visit} {pass : Failure → Failure} {rounds consumed : Nat} {log : List Event}

/-- A failure that comes out of the visit `v`, when the events `log` have happened inside it. The visits
    within it are closed by the failure. -/
def Breaks (g : Graph) (v : Visit) (log : List Event) (f : Failure) : Prop :=
  ∃ above last inside opened, g.Opened v above last inside opened ∧
    log = opened ++ Visit.closings f.cause.kind (above ++ [last]).tail ∧ g.Stacked above last inside f

/-- The events inside the visit `v` up to a verdict, where a failure is still to be changed by `pass`. -/
def Happens (g : Graph) (v : Visit) (pass : Failure → Failure) (rounds consumed : Nat)
    (log : List Event) : Verdict → Prop
  | .matched _ | .rejected => g.Inside v.node rounds consumed log
  | .failed f => g.Breaks v log (pass f)
  | .unfinished => ∃ above last inside, g.Opened v above last inside log

/-- The events inside the visit `v` up to its verdict. -/
def Performed (g : Graph) (v : Visit) (log : List Event) (verdict : Verdict) : Prop :=
  ∃ rounds consumed, g.Happens v id rounds consumed log verdict

/-- The events of the visit `v`. -/
def Visited (g : Graph) (v : Visit) (log : List Event) (verdict : Verdict) : Prop :=
  ∃ inner, g.Performed v inner verdict ∧ log = v.enter :: inner ++ Result.closing v.node v.pos verdict

theorem Rejections.ne_nil {pos : Nat} {ids : List Nat} (h : g.Rejections pos ids log) (hids : ids ≠ []) :
    log ≠ [] := by
  cases h with
  | nil => exact absurd rfl hids
  | cons => simp

theorem ownTags_nil : g.OwnTags v [] [] :=
  Or.inr ⟨fun _ ⟨_, _, _, _, hne, hr⟩ => hr.ne_nil hne rfl, rfl⟩

theorem ownTags_of_step {node : GraphNode} (hn : g.node? v.node = some node)
    (hstep : ∀ tag, node.step ≠ .applyTag tag) : g.OwnTags v log [] := by
  refine Or.inr ⟨fun tag ⟨node', hn', hstep', _⟩ => hstep tag ?_, rfl⟩
  rw [hn] at hn'
  cases hn'
  exact hstep'

theorem breaks_of_inside {f : Failure} {own : List Nat} (h : g.Inside v.node rounds consumed log)
    (hown : g.OwnTags v log own) (htags : f.tags = own.reverse) (hstates : f.states = []) :
    g.Breaks v log f :=
  ⟨[], v, log, log, .here h, (List.append_nil _).symm, by rw [hstates]; rfl, own, hown, by simp [htags]⟩

theorem filterMap_visit (name : Visit → Option Nat) (path : List Visit) :
    (v :: path).filterMap name = (name v).toList ++ path.filterMap name := by
  cases h : name v <;> simp [h]

theorem states_record {f : Failure} {node : GraphNode} (hn : g.node? v.node = some node) :
    (Attempt.record node.step f).states.reverse = (g.stateOf v).toList ++ f.states.reverse := by
  cases hs : node.step <;> simp [Attempt.record, stateOf, hn, hs]

theorem tags_record {f : Failure} {node : GraphNode} (hn : g.node? v.node = some node) :
    (Attempt.record node.step f).tags.reverse = (g.tagOf v).toList ++ f.tags.reverse := by
  cases hs : node.step <;> simp [Attempt.record, tagOf, hn, hs]

theorem breaks_of_visited {next : Visit} {f : Failure} {vlog : List Event} {node : GraphNode}
    (hn : g.node? v.node = some node) (h : g.Inside v.node rounds consumed log)
    (hlead : g.Leads v.node next.node) (hv : g.Visited next vlog (.failed f)) :
    g.Breaks v (log ++ vlog) (Attempt.record node.step f) := by
  obtain ⟨inner, ⟨_, _, above, last, inside, opened, hopened, rfl, hstates, own, hown, htags⟩, rfl⟩ := hv
  refine ⟨v :: above, last, inside, _, .within h hlead hopened, ?_, ?_, own, hown, ?_⟩
  · obtain ⟨rest, hpath⟩ : ∃ rest, above ++ [last] = next :: rest := by
      cases hopened with
      | here => exact ⟨[], rfl⟩
      | within => exact ⟨_, rfl⟩
    have hcause : (Attempt.record node.step f).cause = f.cause := by cases node.step <;> rfl
    have htail : (v :: above ++ [last]).tail = next :: rest := hpath
    rw [hcause, htail, hpath]
    simp [Visit.closings, Visit.failed, Result.closing]
  · rw [states_record hn, filterMap_visit, ← hstates]
    rfl
  · rw [tags_record hn, filterMap_visit, List.append_assoc, ← htags]
    rfl

theorem happens_of_visited {next : Visit} {vlog : List Event} {verdict : Verdict} {node : GraphNode}
    (hn : g.node? v.node = some node) (h : g.Inside v.node rounds consumed log)
    (hlead : g.Leads v.node next.node) (hv : g.Visited next vlog verdict) :
    g.Happens v (Attempt.record node.step) rounds consumed (log ++ vlog) verdict := by
  cases verdict with
  | matched p =>
    obtain ⟨inner, ⟨_, _, hinner⟩, rfl⟩ := hv
    exact h.visit hlead hinner (.matched p.len)
  | rejected =>
    obtain ⟨inner, ⟨_, _, hinner⟩, rfl⟩ := hv
    exact h.visit hlead hinner .rejected
  | failed f => exact breaks_of_visited hn h hlead hv
  | unfinished =>
    obtain ⟨inner, ⟨_, _, above, last, inside, hopened⟩, rfl⟩ := hv
    refine ⟨v :: above, last, inside, ?_⟩
    rw [Result.closing, List.append_nil]
    exact .within h hlead hopened

end Graph

/-! ## The steps of an attempt -/

namespace Attempt

open GraphLexer.Graph

variable {a : Attempt} {v : Visit} {node : GraphNode} {rounds consumed : Nat} {before : List Event}

theorem failed_performed (h : a.graph.Inside v.node rounds consumed before)
    (hown : a.graph.OwnTags v before []) (cause : Cause) (pos ticks : Nat) :
    (Result.failed cause pos ticks).Leaves before (a.graph.Performed v) :=
  (Result.leaves_of_log rfl).2 ⟨rounds, consumed, breaks_of_inside h hown rfl rfl⟩

theorem tick_performed (h : a.graph.Inside v.node rounds consumed before)
    (hown : a.graph.OwnTags v before []) {pos ticks : Nat} {next : Nat → Result}
    (hnext : ∀ t, (next t).Leaves before (a.graph.Performed v)) :
    (a.tick pos ticks next).Leaves before (a.graph.Performed v) := by
  unfold tick
  split
  · exact failed_performed h hown _ _ _
  · exact hnext _

theorem mapFailure_happens {pass : Failure → Failure} {r : Result}
    (h : r.Leaves before (a.graph.Happens v pass rounds consumed)) :
    (r.mapFailure pass).Leaves before (a.graph.Happens v id rounds consumed) := by
  rw [Result.Leaves, Result.log_mapFailure]
  rw [Result.Leaves] at h
  cases hv : r.verdict with
  | failed f => rw [Result.mapFailure_of_failed hv]; rwa [hv] at h
  | _ => rw [Result.mapFailure_of_not_failed (by simp [hv]), hv]; rwa [hv] at h

variable (hn : a.graph.node? v.node = some node)
include hn

theorem giveUp_happens (hstep : ∀ tag, node.step ≠ .applyTag tag)
    (h : a.graph.Inside v.node rounds consumed before) (pos ticks : Nat) :
    (a.giveUp node pos ticks).Leaves before (a.graph.Happens v id rounds consumed) := by
  unfold giveUp
  split
  · exact (Result.leaves_of_log rfl).2 (breaks_of_inside h (ownTags_of_step hn hstep) rfl rfl)
  · exact (Result.leaves_of_log rfl).2 h

variable {go : Nat → Nat → Nat → Result}
  (hgo : ∀ id pos t, a.graph.Visited ⟨id, pos⟩ (told (go id pos t).log) (go id pos t).verdict)
include hgo

theorem firstOf_happens {pos : Nat} : ∀ {ids : List Nat}, (∀ id ∈ ids, a.graph.Leads v.node id) →
    ∀ {before ticks}, a.graph.Inside v.node rounds consumed before →
      (firstOf (fun id => go id pos) ids ticks).Leaves before
        (a.graph.Happens v (record node.step) rounds consumed)
  | [], _, _, _, h => (Result.leaves_of_log rfl).2 h
  | id :: _, hlead, _, ticks, h =>
    Result.leaves_orElse (happens_of_visited hn h (hlead id List.mem_cons_self) (hgo id pos ticks))
      fun _ _ hlog => firstOf_happens (fun id hid => hlead id (List.mem_cons_of_mem _ hid)) hlog

theorem transitions_happens (h : a.graph.Inside v.node rounds consumed before) (pos ticks : Nat) :
    (transitions go node pos ticks).Leaves before (a.graph.Happens v id rounds consumed) := by
  unfold transitions
  split
  · exact (Result.leaves_of_log rfl).2 h
  · exact mapFailure_happens (firstOf_happens hn hgo (fun id hid => Or.inl ⟨node, hn, hid⟩) h)

omit hn in
theorem firstOf_rejections {pos : Nat} : ∀ {ids : List Nat} {ticks : Nat},
    (firstOf (fun id => go id pos) ids ticks).verdict = .rejected →
      a.graph.Rejections pos ids (told (firstOf (fun id => go id pos) ids ticks).log)
  | [], _, _ => .nil
  | id :: ids, ticks, h => by
    have hv := hgo id pos ticks
    rw [firstOf, Result.orElse] at h ⊢
    cases hverdict : (go id pos ticks).verdict with
    | rejected =>
      rw [Result.bind_of_rejected hverdict] at h ⊢
      rw [hverdict] at hv
      obtain ⟨inner, ⟨_, _, hinner⟩, hlog⟩ := hv
      rw [Result.after, told_append, hlog]
      exact .cons hinner (firstOf_rejections h)
    | matched p => rw [Result.bind_of_matched hverdict] at h; cases h
    | failed f => rw [Result.bind_of_failed hverdict, hverdict] at h; cases h
    | unfinished => rw [Result.bind_of_unfinished hverdict, hverdict] at h; cases h

omit hn in
theorem transitions_rejections {pos ticks : Nat} (h : (transitions go node pos ticks).verdict = .rejected) :
    node.transitions ≠ [] ∧
      a.graph.Rejections pos node.transitions (told (transitions go node pos ticks).log) := by
  unfold transitions at h ⊢
  split at h
  · cases h
  · next hne =>
    rw [if_neg hne, Result.log_mapFailure]
    refine ⟨fun hnil => hne (by rw [hnil]; rfl), firstOf_rejections hgo ?_⟩
    cases hv : (firstOf (fun id => go id pos) node.transitions ticks).verdict with
    | rejected => rfl
    | failed f => rw [Result.mapFailure_of_failed hv] at h; cases h
    | _ => rw [Result.mapFailure_of_not_failed (by simp [hv]), hv] at h; cases h

theorem advance_performed (hstep : ∀ tag, node.step ≠ .applyTag tag) (id pos n ticks : Nat) :
    (a.advance go id node pos n ticks).Leaves [] (a.graph.Performed v) := by
  unfold advance
  rw [Result.leaves_after, told_accepted]
  refine Result.leaves_bind (transitions_happens hn hgo .nothing _ _) (fun p t log h => ?_)
    (fun t log h => ?_) (fun f log h => ⟨0, 0, h⟩) fun log h => ⟨0, 0, h⟩
  · exact (Result.leaves_of_log rfl).2 ⟨0, 0, h⟩
  · exact ⟨0, 0, giveUp_happens hn hstep h _ _⟩

theorem tagged_performed {tag : Nat} (hstep : node.step = .applyTag tag) (ticks : Nat) :
    ((transitions go node v.pos ticks).bind
      (fun p ticks => .matched ⟨p.len, [⟨tag, v.pos, p.len, p.tags⟩]⟩ ticks)
      (fun ticks => (a.giveUp node v.pos ticks).mapFailure (record node.step))).Leaves []
        (a.graph.Performed v) := by
  have hall : (transitions go node v.pos ticks).Leaves [] (a.graph.Happens v id 0 0) :=
    transitions_happens hn hgo .nothing v.pos ticks
  have hrejections := @transitions_rejections a node go hgo v.pos ticks
  cases hv : (transitions go node v.pos ticks).verdict with
  | matched p =>
    rw [Result.bind_of_matched hv, Result.leaves_after]
    rw [Result.Leaves, hv] at hall
    exact (Result.leaves_of_log rfl).2 ⟨0, 0, hall⟩
  | failed f => rw [Result.bind_of_failed hv]; exact ⟨0, 0, hall⟩
  | unfinished => rw [Result.bind_of_unfinished hv]; exact ⟨0, 0, hall⟩
  | rejected =>
    rw [Result.bind_of_rejected hv, Result.leaves_after]
    rw [Result.Leaves, hv] at hall
    obtain ⟨hne, hrej⟩ := hrejections hv
    unfold giveUp
    split
    · next hc =>
      have hown : a.graph.OwnTags v _ [tag] := Or.inl ⟨tag, ⟨node, hn, hstep, hc, hne, hrej⟩, rfl⟩
      refine (Result.leaves_of_log rfl).2 ⟨0, 0, breaks_of_inside hall hown ?_ ?_⟩
      · rw [hstep]; rfl
      · rw [hstep]; rfl
    · exact (Result.leaves_of_log rfl).2 ⟨0, 0, hall⟩

section
variable {target entry : Nat} {r : Repetition} (hstep : node.step = .subState target r)
include hstep

theorem missed_performed (h : a.graph.Inside v.node rounds consumed before) (at_ ticks : Nat) :
    (if rounds < r.min.toNat then
        if 0 < rounds then a.giveUp node at_ ticks else .rejected ticks
      else if r.greedy then (transitions go node at_ ticks).orElse (a.giveUp node at_)
      else a.giveUp node at_ ticks).Leaves before (a.graph.Performed v) := by
  have htag : ∀ tag, node.step ≠ .applyTag tag := by simp [hstep]
  split
  · split
    · exact ⟨rounds, consumed, giveUp_happens hn htag h _ _⟩
    · exact (Result.leaves_of_log rfl).2 ⟨rounds, consumed, h⟩
  · split
    · exact ⟨rounds, consumed, Result.leaves_orElse (transitions_happens hn hgo h _ _)
        fun _ _ hlog => giveUp_happens hn htag hlog _ _⟩
    · exact ⟨rounds, consumed, giveUp_happens hn htag h _ _⟩

variable (hentry : a.graph.entryOf target = some entry)
include hentry

/-- A round that matches is followed by the event that counts it, and then by the later rounds. -/
theorem matched_performed (h : a.graph.Inside v.node rounds consumed before) {p : Partial} {ticks : Nat}
    (hp : (go entry (v.pos + consumed) ticks).verdict = .matched p) {later : Result}
    (hlater : ∀ {log}, a.graph.Inside v.node (rounds + 1) (consumed + p.len) log →
      later.Leaves log (a.graph.Performed v)) :
    ((later.bind (fun q ticks => .matched (p.after q) ticks) .rejected).after
      [.repeated v.node (rounds + 1) (v.pos + consumed + p.len - v.pos)]).Leaves
        (before ++ told (go entry (v.pos + consumed) ticks).log) (a.graph.Performed v) := by
  have hvisit := hgo entry (v.pos + consumed) ticks
  rw [hp] at hvisit
  obtain ⟨inner, ⟨_, _, hinner⟩, hlog⟩ := hvisit
  have htold : told [.repeated v.node (rounds + 1) (v.pos + consumed + p.len - v.pos)] =
      [.repeated v.node (rounds + 1) (consumed + p.len)] := by
    rw [Nat.add_assoc, Nat.add_sub_cancel_left]; rfl
  rw [Result.leaves_after, hlog, htold]
  exact Result.leaves_bind (hlater (h.round ⟨node, target, r, hn, hstep, hentry⟩ hinner))
    (fun _ _ _ hq => (Result.leaves_of_log rfl).2 hq) (fun _ _ hr => (Result.leaves_of_log rfl).2 hr)
    (fun _ _ hf => hf) fun _ hu => hu

/-- The rounds of an invocation, by induction on the number of those that may still be made. -/
theorem loop_performed : ∀ fuel rounds consumed ticks {before},
    a.graph.Inside v.node rounds consumed before →
    (a.loop v.node node r v.pos (go entry) (transitions go node) fuel rounds (v.pos + consumed)
      ticks).Leaves before (a.graph.Performed v)
  | 0, _, _, _, _, h => (Result.leaves_of_log rfl).2 ⟨0, 0, [], v, _, .here h⟩
  | fuel + 1, rounds, consumed, ticks, before, h => by
    have htag : ∀ tag, node.step ≠ .applyTag tag := by simp [hstep]
    rw [loop]
    refine Result.leaves_bind (P := a.graph.Happens v id rounds consumed) ?_
      (fun p t log hlog => (Result.leaves_of_log rfl).2 ⟨rounds, consumed, hlog⟩) (fun t log hlog => ?_)
      (fun f log hlog => ⟨rounds, consumed, hlog⟩) fun log hlog => ⟨rounds, consumed, hlog⟩
    · split
      · exact transitions_happens hn hgo h _ _
      · exact (Result.leaves_of_log rfl).2 h
    split
    · split
      · exact ⟨rounds, consumed, giveUp_happens hn htag hlog _ _⟩
      · exact (Result.leaves_of_log rfl).2 ⟨rounds, consumed, hlog⟩
    have hpass : record node.step = id := by rw [hstep]; rfl
    have hround := happens_of_visited hn hlog (Or.inr ⟨node, target, r, hn, hstep, hentry⟩)
      (hgo entry (v.pos + consumed) t)
    rw [hpass] at hround
    cases hv : (go entry (v.pos + consumed) t).verdict with
    | matched p =>
      rw [hv] at hround
      have hnext := fun t' => matched_performed hn hgo hstep hentry hlog hv
        (loop_performed fuel (rounds + 1) (consumed + p.len) t')
      rw [Result.bind_of_matched hv, Result.leaves_after]
      dsimp only
      rw [Nat.add_assoc] at hnext ⊢
      split
      · exact hnext 0
      · exact tick_performed hround (ownTags_of_step hn htag) hnext
    | rejected =>
      rw [hv] at hround
      rw [Result.bind_of_rejected hv, Result.leaves_after]
      exact missed_performed hn hgo hstep hround _ _
    | failed f =>
      rw [Result.bind_of_failed hv]
      exact ⟨rounds, consumed, hround⟩
    | unfinished =>
      rw [Result.bind_of_unfinished hv]
      exact ⟨rounds, consumed, hround⟩

end

omit hn in
theorem perform_performed (ticks : Nat) :
    (a.perform go v.node v.pos ticks).Leaves [] (a.graph.Performed v) := by
  cases hn : a.graph.node? v.node with
  | none =>
    rw [perform_of_none hn]
    exact (Result.leaves_of_log rfl).2 ⟨0, 0, .nothing⟩
  | some node =>
    cases hstep : node.step with
    | state name =>
      rw [perform_state hn hstep]
      exact ⟨0, 0, transitions_happens hn hgo .nothing _ _⟩
    | applyTag tag =>
      rw [perform_applyTag hn hstep]
      exact tagged_performed hn hgo hstep ticks
    | subState target r =>
      cases hentry : a.graph.entryOf target with
      | none =>
        rw [perform_undefined hn hstep hentry]
        exact failed_performed .nothing ownTags_nil _ _ _
      | some entry =>
        rw [perform_subState hn hstep hentry]
        exact loop_performed hn hgo hstep hentry (a.rounds r) 0 0 ticks .nothing
    | _ =>
      rw [perform_matcher hn (by rw [hstep]; rfl)]
      split
      · exact (Result.leaves_of_log rfl).2 ⟨0, 0, .nothing⟩
      · exact advance_performed hn hgo (by simp [hstep]) _ _ _ _

omit hn hgo in
theorem visited_of_performed {r : Result} (h : r.Leaves [] (a.graph.Performed v)) :
    a.graph.Visited v (told (r.visited v.node v.pos).log) (r.visited v.node v.pos).verdict := by
  refine ⟨told r.log, h, ?_⟩
  rw [Result.visited, ← List.singleton_append, told_append, told_append]
  cases r.verdict <;> rfl

omit hn hgo in
/-- **Every visit leaves its brackets**, by induction on the levels to spare. -/
theorem visited_visit : ∀ levels id pos ticks, a.graph.Visited ⟨id, pos⟩
    (told (a.visit levels id pos ticks).log) (a.visit levels id pos ticks).verdict
  | 0, _, _, _ =>
    visited_of_performed (tick_performed .nothing ownTags_nil fun _ =>
      failed_performed .nothing ownTags_nil _ _ _)
  | levels + 1, _, _, _ =>
    visited_of_performed (tick_performed .nothing ownTags_nil fun _ =>
      perform_performed (visited_visit levels) _)

end Attempt

end GraphLexer
