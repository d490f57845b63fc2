/-
The numbers of a table are dense, unique and lasting.

Whatever is asked of an empty table, it then holds the names that were interned, up to repetition
(`names_run_empty`). So the number of a name is that of the different names that were interned before it
first was (`name?_iff_first`), and the numbers in use are those below the number of all different names. A
table only grows (`begins_run`), so a number means the same name in all that follows.

Replies give numbers in 32 bits. They are the numbers of the table as long as there are no more names than
these can count (`ofNat_eq_iff`).
-/
import GraphLexer.Proofs.Graph.Names
import Mathlib.Data.Finset.Card

namespace GraphLexer.NameTable

/-! ## Requests -/

/-- The name that a request puts into the table. -/
def Request.interned? : Request → Option String
  | .intern n => some n
  | .find _ | .name _ | .size | .entries => none

/-- The names that requests put into a table, in order. -/
def interned (requests : List Request) : List String :=
  requests.filterMap Request.interned?

def run (t : NameTable) (requests : List Request) : NameTable :=
  requests.foldl (fun t r => (t.serve r).1) t

variable {t : NameTable} {r : Request} {met : List String} {name : String} {i : Nat}

theorem serve_of_read (h : r.interned? = none) : (t.serve r).1 = t := by
  cases r with
  | intern name => cases h
  | find | name | size | entries => rfl

theorem serve_of_intern (h : r.interned? = some name) : (t.serve r).1 = (t.intern name).1 := by
  cases r with
  | intern name' => cases h; rfl
  | find | name | size | entries => cases h

theorem begins_serve (t : NameTable) (r : Request) : t.Begins (t.serve r).1 := by
  cases h : r.interned? with
  | none => rw [serve_of_read h]; exact .refl t
  | some name => rw [serve_of_intern h]; exact begins_intern t name

/-- A table begins all tables that come of it. -/
theorem begins_run (t : NameTable) (requests : List Request) : t.Begins (t.run requests) :=
  List.foldlRecOn requests _ (Begins.refl t) fun _ ht r _ => ht.trans (begins_serve _ r)

/-- Requests add the names that they intern, up to repetition. -/
theorem eraseDups_run (t : NameTable) (requests : List Request) :
    (t.run requests).names.eraseDups = (t.names ++ interned requests).eraseDups := by
  induction requests generalizing t with
  | nil => rw [interned, List.filterMap_nil, List.append_nil]; rfl
  | cons r requests ih =>
    rw [run, List.foldl_cons, ← run, ih, interned, interned, List.filterMap_cons]
    cases h : r.interned? with
    | none => rw [serve_of_read h]
    | some name => rw [serve_of_intern h]; exact eraseDups_intern t name _

theorem names_run_empty (requests : List Request) :
    (empty.run requests).names = (interned requests).eraseDups := by
  rw [← eraseDups_of_nodup (empty.run requests).nodup, eraseDups_run]
  rfl

/-! ## Numbers -/

theorem length_eraseDups {l : List String} (h : l.eraseDups.Nodup) :
    l.eraseDups.length = l.toFinset.card := by
  have hsame : l.eraseDups.toFinset = l.toFinset := by
    ext name
    rw [List.mem_toFinset, List.mem_toFinset, List.mem_eraseDups]
  rw [← List.toFinset_card_of_nodup h, hsame]

theorem size_eq_card (h : t.names = met.eraseDups) : t.size = met.toFinset.card := by
  rw [size, h]
  exact length_eraseDups (h ▸ t.nodup)

/-- A name is at the number of the different names that were met before it. -/
theorem name?_first (h : t.names = met.eraseDups) (hmem : name ∈ met) :
    t.name? (met.takeWhile (· ≠ name)).toFinset.card = some name := by
  obtain ⟨before, after, rfl, hnew⟩ := List.eq_append_cons_of_mem hmem
  have hbefore : (before ++ name :: after).takeWhile (· ≠ name) = before := by
    have hne : ∀ n ∈ before, decide (n ≠ name) = true := fun n hn =>
      decide_eq_true fun he => hnew (he ▸ hn)
    rw [List.takeWhile_append_of_pos hne, List.takeWhile_cons_of_neg (by simp), List.append_nil]
  -- the names that were met before stand first in the table, each once
  obtain ⟨later, hnames⟩ : ∃ later, t.names = before.eraseDups ++ name :: later := by
    rw [h, List.eraseDups_append, List.cons_removeAll, if_pos (by simpa using hnew), List.eraseDups_cons]
    exact ⟨_, rfl⟩
  have hnodup : before.eraseDups.Nodup :=
    (hnames ▸ t.nodup).sublist (List.sublist_append_left ..)
  rw [hbefore, ← length_eraseDups hnodup, name?, hnames, List.getElem?_append_right (Nat.le_refl _),
    Nat.sub_self]
  rfl

theorem name?_iff_first (h : t.names = met.eraseDups) : t.name? i = some name ↔
    name ∈ met ∧ i = (met.takeWhile (· ≠ name)).toFinset.card := by
  constructor
  · intro hi
    have hmem : name ∈ met := by
      rw [← List.mem_eraseDups, ← h]
      exact List.mem_of_getElem? hi
    exact ⟨hmem, eq_of_name? hi (name?_first h hmem)⟩
  · rintro ⟨hmem, rfl⟩
    exact name?_first h hmem

theorem exists_name?_iff : (∃ name, t.name? i = some name) ↔ i < t.size := by
  constructor
  · rintro ⟨name, hname⟩
    exact lt_size hname
  · intro hi
    exact ⟨_, List.getElem?_eq_getElem hi⟩

theorem map_fst_entries (t : NameTable) : t.entries.map (·.1) = List.range t.size := by
  rw [entries, List.map_map, size, List.range_eq_range']
  exact List.zipIdx_map_snd 0 t.names

/-! ## Replies -/

theorem ofNat_eq_iff {index : UInt32} (h : i < UInt32.size) :
    UInt32.ofNat i = index ↔ i = index.toNat := by
  rw [← UInt32.toNat_inj, UInt32.toNat_ofNat_of_lt' h]

section
variable {index : UInt32}

theorem reply_name : (t.serve (.name index)).2 = .name (some name) ↔ t.name? index.toNat = some name := by
  rw [serve, Reply.name.injEq]

theorem found_of_name? (h : t.name? index.toNat = some name) :
    (t.serve (.find name)).2 = .found (some index) := by
  rw [serve, find?_eq_some.2 h, Option.map_some, UInt32.ofNat_toNat]

theorem reply_find (h : t.size ≤ UInt32.size) :
    (t.serve (.find name)).2 = .found (some index) ↔ t.name? index.toNat = some name := by
  refine ⟨fun hfound => ?_, found_of_name?⟩
  rw [serve, Reply.found.injEq, Option.map_eq_some_iff] at hfound
  obtain ⟨i, hi, hindex⟩ := hfound
  rw [find?_eq_some] at hi
  have hlt := lt_size hi
  rwa [← (ofNat_eq_iff (by omega)).1 hindex]

/-- The number that a name is given leads back to it. -/
theorem reply_intern (h : t.size < UInt32.size) (name : String) : ∃ index : UInt32,
    (t.serve (.intern name)).2 = .index index ∧
      (t.serve (.intern name)).1.name? index.toNat = some name := by
  have hname := name?_intern t name
  have hsize : (t.intern name).1.size ≤ t.size + 1 := by
    rw [size, names_intern]
    split
    · exact Nat.le_succ _
    · rw [List.length_append]; rfl
  have hlt := lt_size hname
  refine ⟨.ofNat (t.intern name).2, rfl, ?_⟩
  rw [← (ofNat_eq_iff (by omega)).1 rfl]
  exact hname

theorem reply_entries (h : t.size ≤ UInt32.size) : ∃ table, (t.serve .entries).2 = .entries table ∧
    table.map (·.1.toNat) = List.range t.size ∧
    ∀ index name, (index, name) ∈ table ↔ t.name? index.toNat = some name := by
  refine ⟨_, rfl, ?_, fun index name => ?_⟩
  · rw [← map_fst_entries, List.map_map]
    refine List.map_congr_left fun (i, name) hmem => ?_
    have hlt := lt_size (mem_entries.1 hmem)
    exact ((ofNat_eq_iff (by omega)).1 rfl).symm
  · rw [List.mem_map]
    constructor
    · rintro ⟨⟨i, name'⟩, hmem, heq⟩
      cases heq
      have hlt := lt_size (mem_entries.1 hmem)
      rw [← (ofNat_eq_iff (by omega)).1 rfl]
      exact mem_entries.1 hmem
    · intro hname
      exact ⟨(index.toNat, name), mem_entries.2 hname, congrArg (·, name) UInt32.ofNat_toNat⟩

end

/-! ## Dense, unique and lasting -/

/-- A table numbers the different names that it has met, in the order in which they first were. -/
structure Numbers (t : NameTable) (met : List String) : Prop where
  size : (t.serve .size).2 = .size met.toFinset.card
  /-- the numbers in use are those below the size -/
  dense : ∀ index, (∃ name, (t.serve (.name index)).2 = .name (some name)) ↔
    index.toNat < met.toFinset.card
  /-- a name has the number of the different names that were met before it first was -/
  first : ∀ name index, (t.serve (.find name)).2 = .found (some index) ↔
    name ∈ met ∧ index.toNat = (met.takeWhile (· ≠ name)).toFinset.card
  inverse : ∀ name index, (t.serve (.find name)).2 = .found (some index) ↔
    (t.serve (.name index)).2 = .name (some name)
  entries : ∃ table, (t.serve .entries).2 = .entries table ∧
    table.map (·.1.toNat) = List.range met.toFinset.card ∧
    ∀ index name, (index, name) ∈ table ↔ (t.serve (.name index)).2 = .name (some name)
  /-- nothing but interning changes the table -/
  reads : ∀ r, r.interned? = none → (t.serve r).1 = t
  /-- the number that a name is given means this name, then and whatever is asked afterwards -/
  interns : ∀ name, ∃ index, (t.serve (.intern name)).2 = .index index ∧
    ∀ more, (((t.serve (.intern name)).1.run more).serve (.name index)).2 = .name (some name) ∧
      ((t.serve (.intern name)).1.run more).name index.toNat = name
  /-- every number in use means its name, whatever is asked afterwards -/
  lasts : ∀ name index, (t.serve (.name index)).2 = .name (some name) →
    ∀ more, ((t.run more).serve (.name index)).2 = .name (some name) ∧
      ((t.run more).serve (.find name)).2 = .found (some index)

/-- **The numbers of a table are dense, unique and lasting**, whatever has been asked of it before, as long
    as there are numbers left. -/
theorem numbers_run (requests : List Request) (h : (interned requests).toFinset.card < UInt32.size) :
    (empty.run requests).Numbers (interned requests) := by
  have hnames := names_run_empty requests
  generalize empty.run requests = t at hnames ⊢
  have hsize := size_eq_card hnames
  rw [← hsize] at h
  have hle := Nat.le_of_lt h
  exact {
    size := by rw [← hsize]; rfl
    dense := fun index => by
      simp only [reply_name]
      rw [exists_name?_iff, hsize]
    first := fun name index => (reply_find hle).trans (name?_iff_first hnames)
    inverse := fun name index => (reply_find hle).trans reply_name.symm
    entries := by
      obtain ⟨table, hreply, hrange, hmem⟩ := reply_entries hle
      exact ⟨table, hreply, hsize ▸ hrange, fun index name => (hmem index name).trans reply_name.symm⟩
    reads := fun _ => serve_of_read
    interns := fun name => by
      obtain ⟨index, hreply, hname⟩ := reply_intern h name
      refine ⟨index, hreply, fun more => ?_⟩
      have hlater := (begins_run _ more).name? hname
      exact ⟨reply_name.2 hlater, name_of_name? hlater⟩
    lasts := fun name index hname more => by
      have hlater := (begins_run t more).name? (reply_name.1 hname)
      exact ⟨reply_name.2 hlater, found_of_name? hlater⟩ }

/-- Requests among which a name is interned again, and one is looked for before it is there. -/
def mixed : List Request :=
  [.intern "b", .find "a", .intern "a", .name 0, .intern "b", .entries, .intern "c"]

theorem mixed_numbers : (interned mixed).toFinset.card < UInt32.size ∧
    ((empty.run mixed).serve (.find "c")).2 = .found (some 2) ∧
    ((empty.run (mixed ++ [.intern "d"])).serve (.name 2)).2 = .name (some "c") := by
  have hfew : (interned mixed).toFinset.card < UInt32.size := by decide
  have hnumbers := numbers_run mixed hfew
  have hthird := (hnumbers.first "c" 2).2 (by decide)
  have hlasts := hnumbers.lasts "c" 2 ((hnumbers.inverse "c" 2).1 hthird) [.intern "d"]
  exact ⟨hfew, hthird, hlasts.1⟩

end GraphLexer.NameTable
