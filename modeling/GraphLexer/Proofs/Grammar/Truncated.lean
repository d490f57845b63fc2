/-
A grammar whose end has been cut off is refused, in both of its forms.

In a document every object and array finds that its end is missing, so that is what the whole document
is found to be (`Grammar.readDocument_truncated`). Fields that may be left out make no difference, as they
are put back only where an object ends.

In the binary form every piece settles its bytes (`Settles`): it refuses their beginnings, and if they are
whole it reads them or refuses them whatever follows. The second is so where a length has more bits than
can be read, and where a tree is nested deeper than there are bytes. Pieces that settle their bytes do so
one after the other (`Settles.bind`), and so the whole form is settled (`Grammar.settles_readParts`).
-/
import GraphLexer.Proofs.Grammar.Binary
import GraphLexer.Proofs.Grammar.Document
import GraphLexer.Proofs.Json.Truncated

namespace GraphLexer

/-! ## Trees in a document -/

section

open Json (Value Reader Takes Spends memberText items_truncated entries_truncated value_spends)

/-- A member that may not be there again is spent, if it is taken at all. -/
theorem spends_unless {α : Type} {reader : Reader α} {text : List Char} {a : α} {levels depth : Nat}
    {again : Bool} (hspends : Spends reader text)
    (h : Takes (fun cs => if again then .error .misshapen else reader cs) levels depth text a) :
    Spends (fun cs => if again then .error .misshapen else reader cs) text := by
  cases again with
  | false => exact hspends
  | true =>
    have htaken : .error .misshapen = Json.within levels depth (a, []) := h [] fun _ hc => by cases hc
    unfold Json.within at htaken
    split at htaken <;> cases htaken

namespace Tree

variable {levels depth : Nat} {transitions : Reader (List Tree)} {d d' : Draft}

/-- Trees are spent where enough levels are left. -/
def AllSpent (ts : List Tree) : Prop :=
  ∀ levels, Value.depthOfItems (listJson ts) ≤ levels →
    ∀ depth : Nat, ∀ v ∈ listJson ts, Spends (ofJson levels) (Json.pretty depth v)

theorem spends_commit {value : Reader Value} {depth' : Nat}
    (h : Takes (draftMember value transitions d "commit") levels depth'
      (memberText depth (.bool true)) d') :
    Spends (draftMember value transitions d "commit") (memberText depth (.bool true)) := by
  unfold draftMember at h ⊢
  simp only [if_true] at h ⊢
  exact spends_unless (Json.spends_boolValue.colon fun b => ({ d with commit := some b } : Draft)) h

theorem spends_transitions {value : Reader Value} {v : Value} {depth' : Nat}
    (hspends : Spends transitions (' ' :: Json.pretty depth v))
    (h : Takes (draftMember value transitions d "transitions") levels depth' (memberText depth v) d') :
    Spends (draftMember value transitions d "transitions") (memberText depth v) := by
  unfold draftMember at h ⊢
  simp only [if_true, String.reduceEq, if_false] at h ⊢
  exact spends_unless (hspends.colon fun ts => ({ d with transitions := some ts } : Draft)) h

theorem spends_nodeMember {key : String} {v : Value} (hv : v.Plain) (hdepth : v.depth ≤ levels)
    (hcommit : key ≠ "commit") (htransitions : key ≠ "transitions") :
    Spends (draftMember (Json.value levels) transitions d key) (memberText depth v) := by
  intro cut hcut
  rw [draftMember, if_neg hcommit, if_neg htransitions]
  exact (Json.spends_member d.members key (value_spends hv hdepth depth) cut hcut).map
    fun members => ({ d with members := members } : Draft)

/-- Transitions are spent if their trees are, after the blank that follows the colon. -/
theorem spends_readTransitions {ts : List Tree} (h : AllSpent ts)
    (hdepth : (Value.array (listJson ts)).depth ≤ levels) :
    Spends (readTransitions levels) (' ' :: Json.pretty depth (.array (listJson ts))) := by
  rw [Value.depth] at hdepth
  obtain ⟨levels, rfl⟩ : ∃ n, levels = n + 1 := ⟨levels - 1, by omega⟩
  rw [Json.pretty_array]
  intro cut hcut
  rcases truncates_cons.1 hcut with rfl | ⟨cut, rfl, harray⟩
  · exact Or.inl rfl
  rcases truncates_cons.1 harray with rfl | ⟨cut, rfl, hitems⟩
  · exact Or.inl rfl
  · exact Or.inl (items_truncated (takesItems_ofJson ts levels (depth + 1)) (by omega)
      (h levels (by omega) (depth + 1)) hitems)

/-- Each member of a tree is spent where it is taken. -/
theorem spends_draftMember {t : Tree} (h : AllSpent t.transitions)
    (hdepth : Value.depthOfMembers t.jsonMembers ≤ levels) : ∀ m ∈ t.jsonMembers, ∀ d d',
      Takes (draftMember (Json.value levels) (readTransitions levels) d m.1) levels m.2.depth
        (memberText depth m.2) d' →
      Spends (draftMember (Json.value levels) (readTransitions levels) d m.1) (memberText depth m.2) := by
  intro m hm d d' htakes
  have hlevels := Nat.le_trans (Value.depth_le_of_mem hm) hdepth
  rw [jsonMembers, List.mem_append, List.mem_append] at hm
  rcases hm with (hm | hm) | hm
  · split at hm
    · cases List.mem_singleton.1 hm
      exact spends_commit htakes
    · cases hm
  · obtain ⟨hcommit, htransitions⟩ := Node.key_ne_of_mem_members m hm
    exact spends_nodeMember (Value.plain_of_mem t.node.plain_members hm) hlevels hcommit htransitions
  · split at hm
    · cases hm
    · cases List.mem_singleton.1 hm
      exact spends_transitions (spends_readTransitions h hlevels) htakes

theorem body_truncated {t : Tree} (h : AllSpent t.transitions)
    (hdepth : Value.depthOfMembers t.jsonMembers ≤ levels) {cut : List Char}
    (hcut : Truncates cut (Json.membersText depth t.jsonMembers)) :
    body (Json.value levels) (readTransitions levels) cut = .error .cutShort := by
  rw [body, entries_truncated (takesMembers_jsonMembers (takesItems_ofJson t.transitions)) hdepth
    (spends_draftMember h hdepth) hcut, error_bind]

mutual

/-- **A tree is spent where enough levels are left.** -/
theorem spends_ofJson : ∀ (t : Tree) {levels : Nat}, t.toJson.depth ≤ levels →
    ∀ depth : Nat, Spends (ofJson levels) (Json.pretty depth t.toJson)
  | ⟨commit, node, transitions⟩, levels, hdepth, depth => by
    rw [toJson_eq, Value.depth] at hdepth
    obtain ⟨levels, rfl⟩ : ∃ n, levels = n + 1 := ⟨levels - 1, by omega⟩
    rw [toJson_eq, Json.pretty_object, ofJson_succ]
    intro cut hcut
    rcases truncates_cons.1 hcut with rfl | ⟨cut, rfl, hmembers⟩
    · exact Or.inl rfl
    · exact Or.inl (body_truncated (allSpent transitions) (by omega) hmembers)

theorem allSpent : ∀ ts : List Tree, AllSpent ts
  | [], _, _, _ => fun _ hv => by cases hv
  | t :: ts, levels, hdepth, depth => List.forall_mem_cons.2
    ⟨spends_ofJson t (Nat.le_trans (Nat.le_max_left _ _) hdepth) depth,
      allSpent ts levels (Nat.le_trans (Nat.le_max_right _ _) hdepth) depth⟩

end

end Tree

/-! ## Documents -/

namespace Grammar

variable {depth levels depth' : Nat} {d d' : Draft}

theorem spends_root {root : String}
    (h : Takes (draftMember d "root") levels depth' (memberText depth (.string root)) d') :
    Spends (draftMember d "root") (memberText depth (.string root)) := by
  unfold draftMember at h ⊢
  simp only [if_true] at h ⊢
  exact spends_unless ((Json.spends_stringValue root).colon fun root => ({ d with root := some root } : Draft)) h

theorem spends_states {states : List Tree}
    (hdepth : (Value.array (Tree.listJson states)).depth ≤ Json.maxDepth - 1)
    (h : Takes (draftMember d "states") levels depth' (memberText depth (.array (Tree.listJson states))) d') :
    Spends (draftMember d "states") (memberText depth (.array (Tree.listJson states))) := by
  have hstates : Spends statesValue (' ' :: Json.pretty depth (.array (Tree.listJson states))) :=
    Tree.spends_readTransitions (Tree.allSpent states) hdepth
  unfold draftMember at h ⊢
  simp only [if_true, String.reduceEq, if_false] at h ⊢
  exact spends_unless (hstates.colon fun states => ({ d with states := some states } : Draft)) h

/-- Each member of a grammar is spent where it is taken. -/
theorem spends_draftMember {g : Grammar}
    (hdepth : Value.depthOfMembers g.jsonMembers ≤ Json.maxDepth - 1) : ∀ m ∈ g.jsonMembers, ∀ d d',
      Takes (draftMember d m.1) levels m.2.depth (memberText depth m.2) d' →
        Spends (draftMember d m.1) (memberText depth m.2) := by
  intro m hm d d' htakes
  have hlevels := Nat.le_trans (Value.depth_le_of_mem hm) hdepth
  simp only [jsonMembers, List.mem_cons, List.not_mem_nil, or_false] at hm
  rcases hm with rfl | rfl
  · exact spends_root htakes
  · exact spends_states hlevels htakes

theorem readDocument_truncated {g : Grammar} (hdepth : g.toValue.depth ≤ Json.maxDepth) {cut : List Char}
    (hcut : Truncates cut g.toJson.toList) : readDocument cut = .error .cutShort := by
  rw [toList_toJson] at hcut
  rcases truncates_cons.1 hcut with rfl | ⟨cut, rfl, hmembers⟩
  · rfl
  have hlevels : Value.depthOfMembers g.jsonMembers ≤ Json.maxDepth - 1 :=
    Nat.le_sub_of_add_le' hdepth
  show (objectBody cut >>= _) = _
  rw [objectBody, entries_truncated g.takesMembers_jsonMembers hlevels (spends_draftMember hlevels) hmembers]
  rfl

end Grammar

end

/-! ## Pieces of the binary form -/

namespace Wire

variable {α β : Type} {value : Reader α} {bytes bytes' : List UInt8} {a : α} {b : β}

/-- A reader settles the bytes of a value: it refuses their beginnings, and if they are whole it reads
    them or refuses them, whatever follows. -/
structure Settles (value : Reader α) (bytes : List UInt8) (a : α) : Prop where
  whole : Reads value bytes a ∨ ∀ rest, ∃ fault, value (bytes ++ rest) = .error fault
  cut : ∀ cut, Truncates cut bytes → ∃ fault, value cut = .error fault

/-- A reader that refuses all bytes. -/
theorem Settles.refused {fault : Fault} (h : ∀ bytes, value bytes = .error fault) :
    Settles value bytes a :=
  ⟨Or.inr fun _ => ⟨fault, h _⟩, fun _ _ => ⟨fault, h _⟩⟩

/-- **Pieces are settled one after the other.** -/
theorem Settles.bind {k : α × List UInt8 → Except Fault (β × List UInt8)} (h : Settles value bytes a)
    (hk : Settles (fun rest => k (a, rest)) bytes' b) :
    Settles (fun cs => value cs >>= k) (bytes ++ bytes') b := by
  constructor
  · rcases h.whole with hreads | hrefuses
    · rcases hk.whole with hreads' | hrefuses'
      · refine Or.inl fun rest => ?_
        dsimp only
        rw [List.append_assoc, hreads, ok_bind]
        exact hreads' rest
      · refine Or.inr fun rest => ?_
        rw [List.append_assoc, hreads, ok_bind]
        exact hrefuses' rest
    · refine Or.inr fun rest => ?_
      obtain ⟨fault, he⟩ := hrefuses (bytes' ++ rest)
      exact ⟨fault, by rw [List.append_assoc, he, error_bind]⟩
  · intro cut hcut
    rcases hcut.append with hbytes | ⟨rest, rfl, hrest⟩
    · obtain ⟨fault, he⟩ := h.cut cut hbytes
      exact ⟨fault, by rw [he, error_bind]⟩
    · rcases h.whole with hreads | hrefuses
      · rw [hreads, ok_bind]
        exact hk.cut rest hrest
      · obtain ⟨fault, he⟩ := hrefuses rest
        exact ⟨fault, by rw [he, error_bind]⟩

/-- A value that is made of the last piece. -/
theorem Settles.last {k : α × List UInt8 → Except Fault (β × List UInt8)} (h : Settles value bytes a)
    (hk : ∀ rest, k (a, rest) = .ok (b, rest)) : Settles (fun cs => value cs >>= k) bytes b := by
  have hpure : Settles (fun rest => k (a, rest)) [] b :=
    ⟨Or.inl hk, fun _ h => absurd h not_truncates_nil⟩
  have hlast := h.bind hpure
  rwa [List.append_nil] at hlast

theorem Settles.map {f : α × List UInt8 → β × List UInt8} (h : Settles value bytes a)
    (hf : ∀ rest, f (a, rest) = (b, rest)) : Settles (fun cs => (value cs).map f) bytes b :=
  h.last (k := fun r => .ok (f r)) fun rest => congrArg Except.ok (hf rest)

/-- A piece of one byte. -/
theorem Settles.singleton {c : UInt8} (hnil : ∃ fault, value [] = .error fault)
    (hcons : Reads value [c] a ∨ ∀ rest, ∃ fault, value ([c] ++ rest) = .error fault) :
    Settles value [c] a := by
  refine ⟨hcons, fun cut h => ?_⟩
  obtain rfl := truncates_singleton.1 h
  exact hnil

theorem settles_byte (c : UInt8) : Settles byte [c] c :=
  .singleton ⟨_, rfl⟩ (Or.inl fun _ => rfl)

/-- Digits are settled, by induction on how many there may be. -/
theorem settles_number {top : Nat} : ∀ count n : Nat, Settles (number top count) (digits count n) n
  | 0, n => .refused fun _ => rfl
  | count + 1, n => by
    rw [digits]
    split
    · next hn =>
      have hread : ∀ rest, number top (count + 1) ([UInt8.ofNat n] ++ rest) =
          if count = 0 ∧ top ≤ n then .error .badNumber else .ok (n, rest) := by
        intro rest
        rw [number, List.singleton_append, byte, ok_bind]
        simp only [toNat_digit (by omega : n < 256)]
        rw [if_pos hn]
      refine .singleton ⟨_, rfl⟩ ?_
      by_cases hlast : count = 0 ∧ top ≤ n
      · exact Or.inr fun rest => ⟨_, (hread rest).trans (if_pos hlast)⟩
      · exact Or.inl fun rest => (hread rest).trans (if_neg hlast)
    · next hn =>
      have hdigit : (UInt8.ofNat (128 + n % 128)).toNat = 128 + n % 128 := toNat_digit (by omega)
      refine (settles_byte _).bind ?_
      simp only [hdigit, if_neg (show ¬ 128 + n % 128 < 128 by omega)]
      refine (settles_number count (n / 128)).last fun rest => ?_
      simp only [Except.ok.injEq, Prod.mk.injEq, and_true]
      omega

theorem settles_word (n : UInt32) : Settles word (putWord n) n := by
  refine (settles_number 5 n.toNat).last fun rest => ?_
  simp only [UInt32.ofNat_toNat]

theorem settles_length (n : Nat) : Settles length (putLength n) n :=
  settles_number 10 n

/-- A text whose length can be read is cut short where bytes are missing. -/
theorem settles_text (s : String) : Settles text (putText s) s := by
  refine (settles_length _).bind ⟨Or.inl fun rest => ?_, fun cut h => ⟨.endOfInput, if_pos h.length_lt⟩⟩
  dsimp only
  rw [if_neg (by simp), List.take_left, List.drop_left, Text.ofUtf8?_utf8]

theorem settles_bool (b : Bool) : Settles bool (putBool b) b :=
  .singleton ⟨_, rfl⟩ (Or.inl (reads_bool b))

theorem settles_option {put : α → List UInt8} (h : ∀ a, Settles value (put a) a) :
    ∀ o : Option α, Settles (option value) (putOption put o) o
  | none => .singleton ⟨_, rfl⟩ (Or.inl fun _ => rfl)
  | some a => (settles_byte 1).bind ((h a).last fun _ => rfl)

/-- Values one after the other, by induction on their list. -/
theorem settles_times {put : α → List UInt8} : ∀ {as : List α}, (∀ a ∈ as, Settles value (put a) a) →
    Settles (times value as.length) (as.flatMap put) as
  | [], _ => ⟨Or.inl fun _ => rfl, fun _ h => absurd h not_truncates_nil⟩
  | a :: _, h => (h a List.mem_cons_self).bind
      ((settles_times fun b hb => h b (List.mem_cons_of_mem _ hb)).last fun _ => rfl)

theorem settles_list {put : α → List UInt8} {as : List α} (h : ∀ a ∈ as, Settles value (put a) a) :
    Settles (list value) (putLength as.length ++ as.flatMap put) as :=
  (settles_length _).bind (settles_times h)

end Wire

/-! ## The binary form -/

open Wire (Settles settles_bool settles_word settles_text settles_option settles_list)

theorem Repetition.settles_ofBytes (r : Repetition) : Settles ofBytes r.toBytes r := by
  rw [toBytes, List.append_assoc]
  exact (settles_bool _).bind ((settles_word _).bind ((settles_option settles_word r.max).last fun _ => rfl))

theorem Node.settles_ofBytes (n : Node) : Settles ofBytes n.toBytes n := by
  cases n with
  | state name | literal text | regex pattern | applyTag tag =>
    exact (settles_word _).bind ((settles_text _).map fun _ => rfl)
  | unicode min max =>
    rw [toBytes, List.append_assoc]
    exact (settles_word 2).bind
      ((settles_option settles_word min).bind ((settles_option settles_word max).last fun _ => rfl))
  | subState target r =>
    rw [toBytes, List.append_assoc]
    exact (settles_word 4).bind ((settles_text target).bind (r.settles_ofBytes.last fun _ => rfl))

namespace Tree

/-- A tree is settled however many levels are allowed, by induction on them. -/
theorem settles_ofBytes : ∀ (depth : Nat) (t : Tree), Settles (ofBytes depth) t.toBytes t
  | 0, _ => .refused fun _ => rfl
  | depth + 1, ⟨commit, node, transitions⟩ => by
    rw [toBytes, List.append_assoc, List.append_assoc, listBytes_eq]
    exact (settles_bool _).bind (node.settles_ofBytes.bind
      ((settles_list fun t _ => settles_ofBytes depth t).last fun _ => rfl))

end Tree

namespace Grammar

/-- The root's name and the trees with the bytes that are left, the trees nested less than `depth`
    levels. -/
def readParts (depth : Nat) : Wire.Reader (String × List Tree) :=
  fun bytes => do
    let (root, rest) ← Wire.text bytes
    let (states, rest) ← Wire.list (Tree.ofBytes depth) rest
    .ok ((root, states), rest)

theorem readBinary_eq (bytes : List UInt8) :
    readBinary bytes = (readParts (bytes.length + 1) bytes).map Prod.fst := by
  rw [readBinary, readParts]
  cases htext : Wire.text bytes with
  | error e => rfl
  | ok r =>
    rw [ok_bind, ok_bind]
    dsimp only
    cases hlist : Wire.list (Tree.ofBytes (bytes.length + 1)) r.2 <;> rfl

theorem settles_readParts (g : Grammar) (depth : Nat) :
    Settles (readParts depth) g.toBinary (g.root, g.states) := by
  rw [toBinary, List.append_assoc, Tree.listBytes_eq]
  exact (settles_text g.root).bind
    ((settles_list fun t _ => t.settles_ofBytes depth).last fun _ => rfl)

theorem readBinary_truncated {g : Grammar} {cut : List UInt8} (hcut : Truncates cut g.toBinary) :
    ∃ fault, readBinary cut = .error fault := by
  obtain ⟨fault, he⟩ := (g.settles_readParts (cut.length + 1)).cut cut hcut
  exact ⟨fault, by rw [readBinary_eq, he, Except.map]⟩

/-- **A grammar that has lost its end is never accepted.** A document that is not nested too deep is found
    to be cut short, wherever the cut is, and the binary form is refused. -/
theorem truncated_refused (g : Grammar) :
    (g.toValue.depth ≤ Json.maxDepth → ∀ text : String, text.toList <+: g.toJson.toList →
      text ≠ g.toJson → ofJson text = .error (.json .cutShort)) ∧
    ∀ bytes, bytes <+: g.toBinary → bytes ≠ g.toBinary →
      ∃ fault, ofBinary bytes = .error (.binary fault) := by
  refine ⟨fun hdepth text hbegins hne => ?_, fun bytes hbegins hne => ?_⟩
  · have hcut : Truncates text.toList g.toJson.toList :=
      ⟨hbegins, fun h => hne (String.toList_inj.1 h)⟩
    rw [ofJson, readDocument_truncated hdepth hcut]
  · obtain ⟨fault, he⟩ := readBinary_truncated (g := g) ⟨hbegins, hne⟩
    exact ⟨fault, by rw [ofBinary, he]⟩

/-- A grammar whose last bound has three digits in a document, and two bytes in the binary form. -/
def bounded : Grammar where
  root := "s"
  states := [.committed (.state "s") [.plain (.subState "s" ⟨true, 1, some 300⟩) []]]
  named := by simp [Tree.committed, Tree.stateName?]
  distinct := by simp [Tree.committed, Tree.stateNames, Tree.stateName?]

/-- What is left ends with the first digit of the bound, and with its first byte. -/
theorem bounded_refused :
    bounded.toJson.toList[283]? = some '3' ∧ bounded.toBinary[15]? = some 172 ∧
    ofJson (String.ofList (bounded.toJson.toList.take 284)) = .error (.json .cutShort) ∧
    ∃ fault, ofBinary (bounded.toBinary.take 16) = .error (.binary fault) := by
  obtain ⟨hjson, hbinary⟩ := bounded.truncated_refused
  have hdigit : bounded.toJson.toList[283]? = some '3' := by
    rw [toList_toJson]
    decide +kernel
  have hlength : 284 < bounded.toJson.toList.length := by
    rw [toList_toJson]
    decide +kernel
  have hcut : (String.ofList (bounded.toJson.toList.take 284)).toList =
      bounded.toJson.toList.take 284 := String.toList_ofList
  refine ⟨hdigit, by decide +kernel, hjson (by decide +kernel) _ ?_ fun h => ?_,
    hbinary _ (List.take_prefix _ _) (by decide +kernel)⟩
  · rw [hcut]
    exact List.take_prefix _ _
  · have he := congrArg (fun text => text.toList.length) h
    simp only [hcut, List.length_take] at he
    omega

end Grammar

end GraphLexer
