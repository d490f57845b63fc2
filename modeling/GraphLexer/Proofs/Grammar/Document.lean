/-
A grammar is read back from its document, unless the document is nested too deep.

Writer and reader do not leave out the same: the fields of a node are found again among its members
(`Node.ofMembers_members`), a repetition with all its fields but an absent upper bound, and what is not
written of a tree is put back where its object ends. So a tree is read back where as many levels are left
as it is nested (`Tree.takes_ofJson`), and a document likewise (`Grammar.ofJson_toJson`).
-/
import GraphLexer.Grammar.Document
import GraphLexer.Proofs.Json.Value

namespace GraphLexer

open Json (Value Fault Reader Takes TakesItems TakesMembers within within_bind_ok within_none
  within_succ within_zero)

/-! ## Nodes -/

theorem boundOf_nat (n : UInt32) : boundOf (.nat n.toNat) = .ok n := by
  have hlt : n.toNat < UInt32.size := n.toNat_lt
  rw [Value.nat, boundOf, Json.toList_toString, Json.natural?_toDigits]
  simp only [if_pos hlt, UInt32.ofNat_toNat]

/-- A bound is read back, and an absent one is taken as absent. -/
theorem optionalBoundOf_map (bound : Option UInt32) :
    optionalBoundOf (bound.map fun n => .nat n.toNat) = .ok bound := by
  cases bound with
  | none => rfl
  | some n => exact congrArg (Except.map some) (boundOf_nat n)

theorem Repetition.ofValue_toJson (r : Repetition) : ofValue (some r.toJson) = .ok r := by
  obtain ⟨greedy, min, max⟩ := r
  have hgreedy : field? ([("greedy", .bool greedy), ("min", .nat min.toNat)] ++ boundMember "max" max)
      "greedy" = .ok (some (.bool greedy)) := by
    cases max <;> simp [field?, boundMember]
  have hmin : field? ([("greedy", .bool greedy), ("min", .nat min.toNat)] ++ boundMember "max" max)
      "min" = .ok (some (.nat min.toNat)) := by
    cases max <;> simp [field?, boundMember]
  have hmax : field? ([("greedy", .bool greedy), ("min", .nat min.toNat)] ++ boundMember "max" max)
      "max" = .ok (max.map fun n => .nat n.toNat) := by
    cases max <;> simp [field?, boundMember]
  rw [toJson, ofValue, hgreedy, hmin, hmax]
  simp only [ok_bind, ofFields, flagOf, leastOf, boundOf_nat, optionalBoundOf_map]

/-- **A node is found among its members.** -/
theorem Node.ofMembers_members (n : Node) : ofMembers n.members = .ok n := by
  cases n with
  | state name | literal text | regex pattern | applyTag tag => rfl
  | unicode min max =>
    have hkind : field? (unicode min max).members "kind" = .ok (some (.string "MatchUnicode")) := by
      cases min <;> cases max <;> simp [field?, members, boundMember]
    have hmin : field? (unicode min max).members "min" = .ok (min.map fun n => .nat n.toNat) := by
      cases min <;> cases max <;> simp [field?, members, boundMember]
    have hmax : field? (unicode min max).members "max" = .ok (max.map fun n => .nat n.toNat) := by
      cases min <;> cases max <;> simp [field?, members, boundMember]
    have hindex : kindOf (some (.string "MatchUnicode")) = .ok 2 := rfl
    simp only [ofMembers, hkind, hindex, hmin, hmax, ok_bind, optionalBoundOf_map]
    rfl
  | subState target r =>
    have hkind : field? (subState target r).members "kind" = .ok (some (.string "SubState")) := by
      by_cases hr : r = .once <;> simp [field?, members, hr]
    have hstate : textField (subState target r).members "state" = .ok target := by
      by_cases hr : r = .once <;> simp [textField, field?, members, hr, ok_bind]
    have hrepetition : ∃ v, field? (subState target r).members "repetition" = .ok v ∧
        Repetition.ofValue v = .ok r := by
      by_cases hr : r = .once
      · subst hr
        exact ⟨none, rfl, rfl⟩
      · exact ⟨some r.toJson, by simp [field?, members, hr], r.ofValue_toJson⟩
    have hindex : kindOf (some (.string "SubState")) = .ok 4 := rfl
    obtain ⟨v, hfield, hr⟩ := hrepetition
    simp only [ofMembers, hkind, hindex, hstate, hfield, hr, ok_bind]
    rfl

theorem plain_nat (n : UInt32) : (Value.nat n.toNat).Plain :=
  ⟨n.toNat, n.toNat_lt, Json.toList_toString _⟩

theorem plain_boundMember (key : String) (bound : Option UInt32) :
    Value.PlainMembers (boundMember key bound) := by
  cases bound with
  | none => trivial
  | some n => exact ⟨plain_nat n, trivial⟩

theorem Repetition.plain_toJson (r : Repetition) : r.toJson.Plain :=
  Value.plainMembers_append ⟨trivial, plain_nat r.min, trivial⟩ (plain_boundMember "max" r.max)

theorem Node.plain_members (n : Node) : Value.PlainMembers n.members := by
  cases n with
  | state | literal | regex | applyTag => exact ⟨trivial, trivial, trivial⟩
  | unicode min max =>
    exact ⟨trivial, Value.plainMembers_append (plain_boundMember "min" min) (plain_boundMember "max" max)⟩
  | subState target r =>
    refine Value.plainMembers_append ⟨trivial, trivial, trivial⟩ ?_
    split
    · trivial
    · exact ⟨r.plain_toJson, trivial⟩

/-- The members of a node are not taken for those of its tree. -/
theorem Node.key_ne_of_mem_members {n : Node} : ∀ m ∈ n.members, m.1 ≠ "commit" ∧ m.1 ≠ "transitions" := by
  cases n with
  | state | literal | regex | applyTag => simp [members]
  | unicode min max => cases min <;> cases max <;> simp [members, boundMember]
  | subState target r => by_cases hr : r = .once <;> simp [members, hr]

/-! ## Trees -/

namespace Tree

/-- The members of a tree. -/
def jsonMembers (t : Tree) : List (String × Value) :=
  (if t.commit then [("commit", .bool true)] else []) ++ t.node.members
    ++ if t.transitions.isEmpty then [] else [("transitions", .array (listJson t.transitions))]

theorem toJson_eq (t : Tree) : t.toJson = .object t.jsonMembers := by
  obtain ⟨commit, node, transitions⟩ := t
  cases transitions <;> rfl

/-- The reader of the transitions of a tree, where `levels` may be open within it. -/
def readTransitions : Nat → Reader (List Tree)
  | 0 => Json.arrayValue Json.tooDeep
  | levels + 1 => Json.arrayValue (Json.items (ofJson levels))

theorem ofJson_succ (levels : Nat) :
    ofJson (levels + 1) = Json.objectValue (body (Json.value levels) (readTransitions levels)) := by
  cases levels <;> rfl

variable {levels depth : Nat}

/-! ### Members -/

theorem takes_commit (transitions : Reader (List Tree)) :
    TakesMembers (draftMember (Json.value levels) transitions) levels depth ⟨none, none, []⟩
      [("commit", .bool true)] ⟨some true, none, []⟩ := by
  refine .cons (fun rest _ => ?_) .nil
  rw [draftMember, if_pos rfl]
  exact (within_zero _).symm

/-- What belongs to the node is put together as it comes. -/
theorem takes_nodeMembers (transitions : Reader (List Tree)) (commit : Option Bool) :
    ∀ {ms : List (String × Value)}, Value.PlainMembers ms →
      (∀ m ∈ ms, m.1 ≠ "commit" ∧ m.1 ≠ "transitions") → ∀ before : List (String × Value),
      TakesMembers (draftMember (Json.value levels) transitions) levels depth ⟨commit, none, before⟩ ms
        ⟨commit, none, before ++ ms⟩
  | [], _, _, before => by rw [List.append_nil]; exact .nil
  | (key, v) :: ms, ⟨hv, hms⟩, hkeys, before => by
    obtain ⟨hcommit, htransitions⟩ := hkeys (key, v) List.mem_cons_self
    have hlater := takes_nodeMembers transitions commit hms
      (fun m hm => hkeys m (List.mem_cons_of_mem _ hm)) (before ++ [(key, v)])
    rw [List.append_assoc] at hlater
    refine .cons (fun rest hrest => ?_) hlater
    rw [draftMember, if_neg hcommit, if_neg htransitions,
      Json.member_takes before key (Json.value_pretty hv levels depth) rest hrest]
    exact within_bind_ok rfl

/-- Transitions are read back if their trees are, after the blank that follows the colon. -/
theorem takes_readTransitions {ts : List Tree}
    (h : ∀ levels depth : Nat, TakesItems (ofJson levels) levels depth (listJson ts) ts) :
    Takes (readTransitions levels) levels (Value.array (listJson ts)).depth
      (' ' :: Json.pretty depth (.array (listJson ts))) ts := by
  intro rest _
  rw [Json.pretty_array, Value.depth]
  cases levels with
  | zero => exact (within_none _).symm
  | succ levels =>
    rw [within_succ]
    exact Json.items_itemsText (h levels (depth + 1)) rest

theorem takes_transitions {ts : List Tree}
    (h : ∀ levels depth : Nat, TakesItems (ofJson levels) levels depth (listJson ts) ts)
    (commit : Option Bool) (ms : List (String × Value)) :
    TakesMembers (draftMember (Json.value levels) (readTransitions levels)) levels depth
      ⟨commit, none, ms⟩ [("transitions", .array (listJson ts))] ⟨commit, some ts, ms⟩ := by
  refine .cons (fun rest hrest => ?_) .nil
  rw [draftMember, if_neg (by decide), if_pos rfl, Option.isSome_none, if_neg (by decide)]
  exact (takes_readTransitions h).colon (fun ts => (⟨commit, some ts, ms⟩ : Draft)) rest hrest

/-! ### Whole trees -/

/-- What has been read of a tree where its object ends: what is left out of it has not been read. -/
def draft (t : Tree) : Draft :=
  ⟨if t.commit then some true else none, if t.transitions.isEmpty then none else some t.transitions,
    t.node.members⟩

theorem takesMembers_jsonMembers {t : Tree} (h : ∀ levels depth : Nat,
    TakesItems (ofJson levels) levels depth (listJson t.transitions) t.transitions) :
    TakesMembers (draftMember (Json.value levels) (readTransitions levels)) levels depth
      ⟨none, none, []⟩ t.jsonMembers t.draft := by
  obtain ⟨commit, node, transitions⟩ := t
  have hcommit : TakesMembers (draftMember (Json.value levels) (readTransitions levels)) levels depth
      ⟨none, none, []⟩ (if commit then [("commit", .bool true)] else [])
      ⟨if commit then some true else none, none, []⟩ := by
    cases commit
    · exact .nil
    · exact takes_commit _
  have hnode := @takes_nodeMembers levels depth (readTransitions levels)
    (if commit then some true else none) _ node.plain_members Node.key_ne_of_mem_members []
  have htransitions : TakesMembers (draftMember (Json.value levels) (readTransitions levels)) levels depth
      ⟨if commit then some true else none, none, [] ++ node.members⟩
      (if transitions.isEmpty then [] else [("transitions", .array (listJson transitions))])
      ⟨if commit then some true else none, if transitions.isEmpty then none else some transitions,
        [] ++ node.members⟩ := by
    cases transitions with
    | nil => exact .nil
    | cons t ts => exact takes_transitions h _ _
  exact (hcommit.append hnode).append htransitions

/-- What is left out of a tree is put back where its object ends. -/
theorem body_membersText {t : Tree} (h : ∀ levels depth : Nat,
    TakesItems (ofJson levels) levels depth (listJson t.transitions) t.transitions) (rest : List Char) :
    body (Json.value levels) (readTransitions levels) (Json.membersText depth t.jsonMembers ++ rest) =
      within levels (Value.depthOfMembers t.jsonMembers) (t, rest) := by
  rw [body, Json.entries_membersText (takesMembers_jsonMembers h) rest]
  refine within_bind_ok ?_
  obtain ⟨commit, node, transitions⟩ := t
  dsimp only [draft]
  rw [Node.ofMembers_members, ok_bind]
  cases commit <;> cases transitions <;> rfl

mutual

/-- **A tree is read back where enough levels are left**, and refused where there are not. -/
theorem takes_ofJson : ∀ (t : Tree) (levels depth : Nat),
    Takes (ofJson levels) levels t.toJson.depth (Json.pretty depth t.toJson) t
  | ⟨commit, node, transitions⟩, 0, depth, rest, _ => by
    rw [toJson_eq, Json.pretty_object, Value.depth, within_none]
    rfl
  | ⟨commit, node, transitions⟩, levels + 1, depth, rest, _ => by
    rw [toJson_eq, Json.pretty_object, Value.depth, within_succ, ofJson_succ]
    exact body_membersText (takesItems_ofJson transitions) rest

theorem takesItems_ofJson : ∀ (ts : List Tree) (levels depth : Nat),
    TakesItems (ofJson levels) levels depth (listJson ts) ts
  | [], _, _ => .nil
  | t :: ts, levels, depth =>
    .cons ⟨'\x7b', _, by rw [toJson_eq, Json.pretty_object], by decide, by decide⟩
      (takes_ofJson t levels depth) (takesItems_ofJson ts levels depth)

end

end Tree

/-! ## Documents -/

namespace Grammar

/-- The members of a grammar. -/
def jsonMembers (g : Grammar) : List (String × Value) :=
  [("root", .string g.root), ("states", .array (Tree.listJson g.states))]

theorem takes_root (root : String) {levels depth : Nat} :
    Takes (draftMember ⟨none, none⟩ "root") levels 0 (':' :: ' ' :: Json.pretty depth (.string root))
      ⟨some root, none⟩ := by
  have hroot : Takes Json.stringValue levels 0 (' ' :: Json.quote root) root := by
    intro rest _
    rw [List.cons_append, Json.quote_append, within_zero]
    exact Json.stringBody_quote root rest
  intro rest hrest
  rw [draftMember, if_pos rfl, Option.isSome_none, if_neg (by decide), Json.pretty]
  exact hroot.colon (fun root => (⟨some root, none⟩ : Draft)) rest hrest

theorem takes_states (root : String) (states : List Tree) {depth : Nat} :
    Takes (draftMember ⟨some root, none⟩ "states") (Json.maxDepth - 1)
      (Value.array (Tree.listJson states)).depth
      (':' :: ' ' :: Json.pretty depth (.array (Tree.listJson states))) ⟨some root, some states⟩ := by
  have hstates : Takes statesValue (Json.maxDepth - 1) (Value.array (Tree.listJson states)).depth
      (' ' :: Json.pretty depth (.array (Tree.listJson states))) states := by
    intro rest _
    rw [Json.pretty_array, Value.depth, show Json.maxDepth - 1 = Json.maxDepth - 2 + 1 from rfl,
      within_succ]
    exact Json.items_itemsText (Tree.takesItems_ofJson states _ _) rest
  intro rest hrest
  rw [draftMember, if_neg (by decide), if_pos rfl, Option.isSome_none, if_neg (by decide)]
  exact hstates.colon (fun states => (⟨some root, some states⟩ : Draft)) rest hrest

theorem takesMembers_jsonMembers (g : Grammar) : TakesMembers draftMember (Json.maxDepth - 1) 1
    ⟨none, none⟩ g.jsonMembers ⟨some g.root, some g.states⟩ :=
  .cons (takes_root g.root) (.cons (takes_states g.root g.states) .nil)

theorem objectBody_membersText (g : Grammar) (rest : List Char) :
    objectBody (Json.membersText 0 g.jsonMembers ++ rest) =
      within (Json.maxDepth - 1) (Value.depthOfMembers g.jsonMembers) ((g.root, g.states), rest) := by
  rw [objectBody, Json.entries_membersText g.takesMembers_jsonMembers rest]
  exact within_bind_ok rfl

theorem toList_toJson (g : Grammar) :
    g.toJson.toList = '\x7b' :: Json.membersText 0 g.jsonMembers := by
  rw [toJson, String.toList_ofList]
  exact Json.pretty_object 0 g.jsonMembers

/-- The brace of a document opens one level more than its members. Blanks may follow the document. -/
theorem readDocument_toJson_append (g : Grammar) {rest : List Char} (hrest : Json.skipBlank rest = []) :
    readDocument (g.toJson.toList ++ rest) =
      (within Json.maxDepth g.toValue.depth ((g.root, g.states), rest)).map Prod.fst := by
  have hobject : objectBody (Json.membersText 0 g.jsonMembers ++ rest) =
      within Json.maxDepth g.toValue.depth ((g.root, g.states), rest) :=
    (objectBody_membersText g rest).trans (within_succ _).symm
  have hfinish : Json.finish rest = .ok () := by
    rw [Json.finish, hrest]
  rw [toList_toJson, List.cons_append]
  show (objectBody _ >>= fun r => Json.finish r.2 >>= fun _ => .ok r.1) = _
  rw [hobject]
  unfold within
  split
  · exact congrArg (· >>= fun _ => _) hfinish
  · rfl

theorem readDocument_toJson (g : Grammar) : readDocument g.toJson.toList =
    (within Json.maxDepth g.toValue.depth ((g.root, g.states), [])).map Prod.fst := by
  have hread := readDocument_toJson_append g (show Json.skipBlank [] = [] from rfl)
  rwa [List.append_nil] at hread

/-- **The JSON format loses nothing.** A grammar is read back from its text if no more arrays and objects
    are open at once than a reader allows, and otherwise the text is refused as malformed. -/
theorem ofJson_toJson (g : Grammar) : ofJson g.toJson =
    if g.toValue.depth ≤ Json.maxDepth then .ok g else .error (.json .malformed) := by
  rw [ofJson, readDocument_toJson, within]
  by_cases hdepth : g.toValue.depth ≤ Json.maxDepth
  · rw [if_pos hdepth, if_pos hdepth]
    exact ofStates_states g
  · rw [if_neg hdepth, if_neg hdepth]
    rfl

end Grammar

end GraphLexer
