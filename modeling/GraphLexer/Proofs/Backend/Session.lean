/-
Handles stay with their grammars.

A `Session` is a backend together with the grammars of which loading has succeeded. However many requests
are made, the backend has the graphs of exactly these grammars, in their order (`Session.keeps_after`).
So a handle is the number of successful loads before its own, and an answer is the one that a backend gives
which has loaded nothing but the grammar of the handle (`handles_stable`).
-/
import GraphLexer.Backend.Session

namespace GraphLexer.Backend

/-! ## Loading -/

/-- The grammar that a request hands over, or why it cannot be read. -/
def Request.grammar? : Request → Option (Except BackendError Grammar)
  | .load g => some (.ok g)
  | .loadBinary bytes =>
    match Grammar.ofBinary bytes with
    | .ok g => some (.ok g)
    | .error e => some (.error (.decode e))
  | .ask _ _ => none

def Request.graph? (r : Request) : Option (Except BackendError Graph) :=
  r.grammar?.map fun
    | .ok g =>
      match Graph.ofGrammar g with
      | .ok graph => .ok graph
      | .error e => .error (.graph e)
    | .error e => .error e

def Reply.isLoaded : Reply → Bool
  | .loaded _ => true
  | .names _ | .result _ | .failed _ => false

variable {b : Backend} {r : Request}

/-- A load succeeds if its grammar has a graph, and then adds this graph. -/
theorem serve_of_graph {graph : Graph} (h : r.graph? = some (.ok graph)) :
    b.serve r = (⟨b.models ++ [graph]⟩, .loaded (.ofNat b.models.length)) ∧
      ∃ g, r.grammar? = some (.ok g) ∧ Graph.ofGrammar g = .ok graph := by
  obtain ⟨read, hread, hgraph⟩ := Option.map_eq_some_iff.1 h
  cases read with
  | error e => cases hgraph
  | ok g =>
    have hg : Graph.ofGrammar g = .ok graph := by
      dsimp only at hgraph
      split at hgraph
      · next hg => rw [hg, Except.ok.inj hgraph]
      · cases hgraph
    refine ⟨?_, g, hread, hg⟩
    cases r with
    | load g' => cases hread; simp only [serve, load, hg, conclude]
    | loadBinary bytes =>
      rw [Request.grammar?] at hread
      split at hread
      · next hbytes => cases hread; simp only [serve, loadBinary, load, hbytes, hg, conclude]
      · cases hread
    | ask handle query => cases hread

/-- A load that does not succeed changes nothing. -/
theorem serve_of_error {e : BackendError} (h : r.graph? = some (.error e)) :
    b.serve r = (b, .failed e) := by
  obtain ⟨read, hread, hgraph⟩ := Option.map_eq_some_iff.1 h
  cases r with
  | load g =>
    cases hread
    dsimp only at hgraph
    split at hgraph
    · cases hgraph
    · next hg => cases hgraph; simp only [serve, load, hg, conclude]
  | loadBinary bytes =>
    rw [Request.grammar?] at hread
    split at hread
    · next g hbytes =>
      cases hread
      dsimp only at hgraph
      split at hgraph
      · cases hgraph
      · next hg => cases hgraph; simp only [serve, loadBinary, load, hbytes, hg, conclude]
    · next hbytes => cases hread; cases hgraph; simp only [serve, loadBinary, hbytes, conclude]
  | ask handle query => cases hread

/-! ## Asking -/

/-- An answer depends on nothing but the graph of the handle. -/
theorem answer_of_model {b c : Backend} {h h' : UInt32} {graph : Graph}
    (hb : b.model h.toNat = .ok graph) (hc : c.model h'.toNat = .ok graph) (query : Query) :
    b.answer h query = c.answer h' query := by
  cases query <;> simp only [answer, tagNames, stateNames, evaluate, hb, hc]

theorem answer_of_unknown {h : UInt32} {e : BackendError} (hb : b.model h.toNat = .error e)
    (query : Query) : b.answer h query = .error e := by
  cases query <;> simp only [answer, tagNames, stateNames, evaluate, hb] <;> rfl

theorem isLoaded_of_answer {h : UInt32} {query : Query} {reply : Reply}
    (hreply : b.answer h query = .ok reply) : reply.isLoaded = false := by
  cases hmodel : b.model h.toNat with
  | error e => rw [answer_of_unknown hmodel] at hreply; cases hreply
  | ok graph =>
    cases query <;> simp only [answer, tagNames, stateNames, evaluate, hmodel] at hreply <;>
      cases hreply <;> rfl

/-- A request that does not load a graph changes nothing, and gives out no handle. -/
theorem serve_of_not_graph (h : ∀ graph, r.graph? ≠ some (.ok graph)) :
    ∃ reply, b.serve r = (b, reply) ∧ reply.isLoaded = false := by
  cases hr : r.graph? with
  | some read =>
    cases read with
    | ok graph => exact absurd hr (h graph)
    | error e => exact ⟨_, serve_of_error hr, rfl⟩
  | none =>
    cases r with
    | load g => cases hr
    | loadBinary bytes =>
      rw [Request.graph?, Request.grammar?] at hr
      split at hr <;> cases hr
    | ask handle query =>
      rw [serve]
      split
      · next reply hreply => exact ⟨reply, rfl, isLoaded_of_answer hreply⟩
      · exact ⟨_, rfl, rfl⟩

/-! ## Sessions -/

/-- A backend, and the grammars of which loading has succeeded, in order. -/
structure Session where
  backend : Backend
  loaded : List Grammar

namespace Session

def next (s : Session) (r : Request) : Session :=
  match s.backend.serve r, r.grammar? with
  | (b, .loaded _), some (.ok g) => ⟨b, s.loaded ++ [g]⟩
  | (b, _), _ => ⟨b, s.loaded⟩

/-- The session of requests to a new backend. -/
def after (requests : List Request) : Session :=
  requests.foldl next ⟨.empty, []⟩

/-- The models of the backend are the graphs of the grammars that were loaded. -/
def Keeps (s : Session) : Prop :=
  s.loaded.map Graph.ofGrammar = s.backend.models.map .ok

variable {s : Session}

theorem next_of_graph {graph : Graph} (h : r.graph? = some (.ok graph)) : ∃ g,
    Graph.ofGrammar g = .ok graph ∧ s.next r = ⟨⟨s.backend.models ++ [graph]⟩, s.loaded ++ [g]⟩ := by
  obtain ⟨hserve, g, hread, hg⟩ := serve_of_graph (b := s.backend) h
  refine ⟨g, hg, ?_⟩
  rw [next, hserve, hread]

theorem next_of_not_graph (h : ∀ graph, r.graph? ≠ some (.ok graph)) : s.next r = s := by
  obtain ⟨reply, hserve, hreply⟩ := serve_of_not_graph (b := s.backend) h
  rw [next, hserve]
  cases reply with
  | loaded handle => cases hreply
  | _ => rfl

theorem Keeps.next (h : s.Keeps) (r : Request) : (s.next r).Keeps := by
  by_cases hr : ∃ graph, r.graph? = some (.ok graph)
  · obtain ⟨graph, hr⟩ := hr
    obtain ⟨g, hg, hnext⟩ := next_of_graph (s := s) hr
    rw [Keeps, hnext, List.map_append, List.map_append, List.map_singleton, List.map_singleton, hg]
    exact congrArg (· ++ _) h
  · rwa [next_of_not_graph fun graph hgraph => hr ⟨graph, hgraph⟩]

/-- A backend keeps the graphs of all loaded grammars, whatever is requested. -/
theorem keeps_after (requests : List Request) : (after requests).Keeps :=
  List.foldlRecOn requests next rfl fun _ hs r _ => hs.next r

theorem Keeps.model (h : s.Keeps) {handle : Nat} {g : Grammar} (hg : s.loaded[handle]? = some g) :
    ∃ graph, Graph.ofGrammar g = .ok graph ∧ s.backend.model handle = .ok graph := by
  have hgraph : (s.backend.models.map Except.ok)[handle]? = some (Graph.ofGrammar g) := by
    rw [← h, List.getElem?_map, hg, Option.map_some]
  rw [List.getElem?_map, Option.map_eq_some_iff] at hgraph
  obtain ⟨graph, hmodel, hgraph⟩ := hgraph
  exact ⟨graph, hgraph.symm, by rw [Backend.model, hmodel]⟩

theorem Keeps.length (h : s.Keeps) : s.loaded.length = s.backend.models.length := by
  simpa using congrArg List.length h

theorem Keeps.unknown (h : s.Keeps) {handle : Nat} (hle : s.loaded.length ≤ handle) :
    s.backend.model handle = .error (.unknownModel handle) := by
  rw [Backend.model, List.getElem?_eq_none (h.length ▸ hle)]

end Session

/-- What holds of the handles of a session. -/
structure Session.Stable (s : Session) : Prop where
  /-- a load succeeds if its grammar has a graph; its handle is the number of loads that did before -/
  loaded : ∀ r handle, (s.backend.serve r).2 = .loaded handle ↔
    (∃ graph, r.graph? = some (.ok graph)) ∧ handle = .ofNat s.loaded.length
  /-- a load that does not succeed changes nothing -/
  refused : ∀ r e, r.graph? = some (.error e) → s.backend.serve r = (s.backend, .failed e)
  unknown : ∀ handle query, s.loaded.length ≤ handle.toNat →
    s.backend.serve (.ask handle query) = (s.backend, .failed (.unknownModel handle.toNat))
  /-- an answer changes nothing, and is the one of a backend that has loaded only this grammar -/
  answer : ∀ handle query g, s.loaded[handle.toNat]? = some g →
    s.backend.serve (.ask handle query) =
      (s.backend, ((Session.after [.load g]).backend.serve (.ask 0 query)).2)

theorem Session.Keeps.answer {s : Session} (h : s.Keeps) {handle : UInt32} {g : Grammar}
    (hg : s.loaded[handle.toNat]? = some g) (query : Query) :
    s.backend.serve (.ask handle query) =
      (s.backend, ((Session.after [.load g]).backend.serve (.ask 0 query)).2) := by
  obtain ⟨graph, hgraph, hmodel⟩ := h.model hg
  have halone : (Session.after [.load g]).backend.model (0 : UInt32).toNat = .ok graph := by
    have hload : (Request.load g).graph? = some (.ok graph) := by
      simp only [Request.graph?, Request.grammar?, Option.map_some, hgraph]
    obtain ⟨g', hg', hnext⟩ := Session.next_of_graph (s := ⟨.empty, []⟩) hload
    rw [Session.after, List.foldl_cons, List.foldl_nil, hnext]
    rfl
  have hsame := answer_of_model hmodel halone query
  rw [serve, serve, hsame]
  split <;> rfl

/-- **Handles are stable**, whatever has been requested from a new backend before. -/
theorem handles_stable (requests : List Request) : (Session.after requests).Stable := by
  have hkeeps := Session.keeps_after requests
  generalize Session.after requests = s at hkeeps ⊢
  refine ⟨fun r handle => ⟨fun hr => ?_, ?_⟩, fun r e => serve_of_error, fun handle query hle => ?_,
    fun handle query g hg => hkeeps.answer hg query⟩
  · by_cases hgraph : ∃ graph, r.graph? = some (.ok graph)
    · obtain ⟨graph, hload⟩ := hgraph
      rw [(serve_of_graph hload).1] at hr
      cases hr
      exact ⟨⟨graph, hload⟩, by rw [hkeeps.length]⟩
    · obtain ⟨reply, hserve, hreply⟩ := serve_of_not_graph (b := s.backend) (r := r)
        fun graph hload => hgraph ⟨graph, hload⟩
      rw [hserve] at hr
      cases hr
      cases hreply
  · rintro ⟨⟨graph, hload⟩, rfl⟩
    rw [(serve_of_graph hload).1, hkeeps.length]
  · rw [serve, answer_of_unknown (hkeeps.unknown hle)]

end GraphLexer.Backend
