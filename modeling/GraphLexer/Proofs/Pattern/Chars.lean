/-
Expressions over one set of characters.

`onlyTakes` goes by the form of an expression: all sets in it are a given one. A walk through such an
expression takes characters of the set only (`walk_onlyTakes`), so all characters of a match are in it
(`matchLength_onlyTakes`). The expression that is a set itself matches one character of it
(`matchLength_chars`).
-/
import GraphLexer.Pattern.Regex
import GraphLexer.Proofs.Text.Units

namespace GraphLexer

namespace Regex

/-- Whether all characters that an expression takes are of a set, as far as its form tells. -/
def onlyTakes (set : CharSet) : Regex → Bool
  | empty => true
  | chars s => s == set
  | look _ => true
  | seq a b => a.onlyTakes set && b.onlyTakes set
  | alt a b => a.onlyTakes set && b.onlyTakes set
  | rep _ _ _ a => a.onlyTakes set
  | more _ a => a.onlyTakes set

variable {set : CharSet}

theorem onlyTakes_andThen {a b : Regex} (ha : a.onlyTakes set) (hb : b.onlyTakes set) :
    (a.andThen b).onlyTakes set := by
  unfold andThen
  split
  · exact hb
  · exact ha
  · simp [onlyTakes, ha, hb]

end Regex

/-- What can be done first is to be done, or to take a character of a set, and then only such ones. -/
def Head.OnlyTakes (set : CharSet) : Head → Prop
  | .done => True
  | .take s next => s = set ∧ next.onlyTakes set

/-- A walk that takes characters of a set only. -/
def Walk.OnlyTakes (set : CharSet) (w : Walk) : Prop :=
  ∀ met, ∀ head ∈ (w met).1, head.OnlyTakes set

namespace Walk

variable {set : CharSet} {first second again leave w : Walk} {point : Regex} {greedy : Bool}

theorem onlyTakes_stuck : stuck.OnlyTakes set :=
  fun _ _ h => by cases h

theorem onlyTakes_done : done.OnlyTakes set :=
  fun _ _ h => by cases List.mem_singleton.1 h; trivial

theorem OnlyTakes.orElse (h : first.OnlyTakes set) (h' : second.OnlyTakes set) :
    (first.orElse second).OnlyTakes set :=
  fun met head hm => (List.mem_append.1 hm).elim (h met head) (h' _ head)

theorem OnlyTakes.choice (h : w.OnlyTakes set) : (w.choice point).OnlyTakes set := by
  intro met head hm
  unfold Walk.choice at hm
  split at hm
  · cases hm
  · exact h _ _ hm

theorem OnlyTakes.round (h : again.OnlyTakes set) (h' : leave.OnlyTakes set) :
    (round greedy again leave).OnlyTakes set := by
  unfold Walk.round
  split
  · exact h.orElse h'
  · exact h'.orElse h

end Walk

namespace Regex

variable {set : CharSet}

section
variable {a next : Regex} {leave : Walk} {body : Regex → Walk → Walk} {greedy : Bool}
  (ha : a.onlyTakes set) (hnext : next.onlyTakes set) (hleave : leave.OnlyTakes set)
  (hbody : ∀ {next leave}, next.onlyTakes set → leave.OnlyTakes set → (body next leave).OnlyTakes set)
include ha hnext hleave hbody

theorem anyRounds_onlyTakes : (anyRounds greedy a next leave body).OnlyTakes set :=
  .choice (.round (hbody (onlyTakes_andThen ha hnext) Walk.onlyTakes_stuck) hleave)

theorem upTo_onlyTakes : ∀ max, (upTo greedy a next leave body max).OnlyTakes set
  | 0 => hleave
  | max + 1 => .choice (.round (hbody (onlyTakes_andThen ha hnext) (upTo_onlyTakes max)) hleave)

theorem atLeast_onlyTakes : ∀ min, (atLeast greedy a next leave body min).OnlyTakes set
  | 0 => by
    rw [atLeast]
    split
    · exact .choice (.round (hbody (onlyTakes_andThen ha hnext) (.choice hleave)) hleave)
    · exact anyRounds_onlyTakes ha hnext hleave hbody
  | 1 => hbody (onlyTakes_andThen ha hnext) (.choice hleave)
  | min + 2 => hbody (onlyTakes_andThen ha hnext) (atLeast_onlyTakes (min + 1))

theorem between_onlyTakes {extra : Nat} :
    ∀ min, (between greedy a next leave body extra min).OnlyTakes set
  | 0 => upTo_onlyTakes ha hnext hleave hbody extra
  | min + 1 => hbody (onlyTakes_andThen ha hnext) (between_onlyTakes min)

end

/-- A walk through an expression over a set takes characters of it, if what follows does. -/
theorem walk_onlyTakes {place : Place} : ∀ {a next : Regex} {leave : Walk}, a.onlyTakes set →
    next.onlyTakes set → leave.OnlyTakes set → (walk place a next leave).OnlyTakes set
  | empty, _, _, _, _, hleave => hleave
  | chars s, next, _, ha, hnext, _ => fun _ _ hm => by
    cases List.mem_singleton.1 hm
    exact ⟨by simpa [onlyTakes] using ha, hnext⟩
  | look test, _, _, _, _, hleave => by
    rw [walk]
    split
    · exact hleave
    · exact Walk.onlyTakes_stuck
  | seq a b, _, _, h, hnext, hleave => by
    obtain ⟨ha, hb⟩ := Bool.and_eq_true_iff.1 h
    rw [walk]
    exact walk_onlyTakes ha (onlyTakes_andThen hb hnext) (walk_onlyTakes hb hnext hleave)
  | alt a b, _, _, h, hnext, hleave => by
    obtain ⟨ha, hb⟩ := Bool.and_eq_true_iff.1 h
    exact .choice (.orElse (walk_onlyTakes ha hnext hleave) (walk_onlyTakes hb hnext hleave))
  | rep _ min none a, _, _, ha, hnext, hleave =>
    atLeast_onlyTakes (a := a) ha hnext hleave (walk_onlyTakes (a := a) ha) min
  | rep _ min (some max) a, _, _, ha, hnext, hleave =>
    between_onlyTakes (a := a) ha hnext hleave (walk_onlyTakes (a := a) ha) min
  | more _ a, _, _, ha, hnext, hleave =>
    anyRounds_onlyTakes (a := a) ha hnext hleave (walk_onlyTakes (a := a) ha)

theorem heads_onlyTakes {place : Place} {a : Regex} (h : a.onlyTakes set) :
    ∀ head ∈ heads place a, head.OnlyTakes set :=
  walk_onlyTakes h rfl Walk.onlyTakes_done []

/-- Where a character can be taken it is in the set, and only such ones are taken after it. -/
theorem after_onlyTakes {c : Char} {r : Regex} : ∀ {hs : List Head},
    (∀ head ∈ hs, head.OnlyTakes set) → r ∈ after c hs → set.contains c ∧ r.onlyTakes set
  | .done :: _, h, hm => after_onlyTakes (fun head hh => h head (List.mem_cons_of_mem _ hh)) hm
  | .take s next :: hs, h, hm => by
    have hrest : r ∈ after c hs → set.contains c ∧ r.onlyTakes set :=
      after_onlyTakes fun head hh => h head (List.mem_cons_of_mem _ hh)
    rw [after] at hm
    split at hm
    · next hc =>
      obtain ⟨rfl, hnext⟩ := h (.take s next) (by simp)
      rcases List.mem_cons.1 hm with rfl | hm
      · exact ⟨hc, hnext⟩
      · exact hrest hm
    · exact hrest hm

/-- What is found on the way was found before, or all characters up to it are in the set. -/
theorem follow_onlyTakes {threads : List Regex} {before : Option Char} {taken n : Nat}
    {best : Option Nat} {text : List Char} (hthreads : ∀ r ∈ threads, r.onlyTakes set)
    (h : follow threads before taken best text = some n) :
    best = some n ∨ ∃ k, n = taken + k ∧ ∀ c ∈ text.take k, set.contains c := by
  induction text generalizing threads before taken best with
  | nil =>
    rw [follow] at h
    split at h
    · cases h; exact Or.inr ⟨0, rfl, by simp⟩
    · exact Or.inl h
  | cons c rest ih =>
    have hbest : ∀ {done : Bool}, (if done then some taken else best) = some n →
        best = some n ∨ ∃ k, n = taken + k ∧ ∀ c' ∈ (c :: rest).take k, set.contains c' :=
      fun {done} h => by
        cases done
        · exact Or.inl h
        · cases h; exact Or.inr ⟨0, rfl, by simp⟩
    rw [follow] at h
    generalize hnext : next c _ = left at h
    cases left with
    | nil => exact hbest h
    | cons r left =>
      have hleft : ∀ r' ∈ r :: left, set.contains c ∧ r'.onlyTakes set := fun r' hr => by
        rw [← hnext, next, List.mem_eraseDups] at hr
        refine after_onlyTakes (fun head hm => ?_) hr
        obtain ⟨thread, ht, hm⟩ := List.mem_flatMap.1 ((List.takeWhile_prefix _).subset hm)
        exact heads_onlyTakes (hthreads thread ht) head hm
      rcases ih (fun r' hr => (hleft r' hr).2) h with h | ⟨k, rfl, hk⟩
      · exact hbest h
      · refine Or.inr ⟨k + 1, by omega, fun c' hc => ?_⟩
        rcases List.mem_cons.1 hc with rfl | hc
        · exact (hleft r (by simp)).1
        · exact hk c' hc

/-- **All characters of a match are in the set.** -/
theorem matchLength_onlyTakes {a : Regex} (ha : a.onlyTakes set) {text : List Char} {n : Nat}
    (h : a.matchLength text = some n) : ∀ c ∈ text.take n, set.contains c := by
  rcases follow_onlyTakes (by simpa using ha) h with h | ⟨k, rfl, hk⟩
  · cases h
  · rwa [Nat.zero_add]

/-- Where nothing is left to match, a match ends. -/
theorem follow_empty {before : Option Char} {taken : Nat} {best : Option Nat} (text : List Char) :
    follow [empty] before taken best text = some taken := by
  have hheads : ∀ place, List.flatMap (heads place) [empty] = [.done] := fun _ => rfl
  cases text with
  | nil => rw [follow, hheads]; rfl
  | cons c rest =>
    have hnext : next c [.done] = [] := rfl
    simp only [follow, hheads, hnext]
    rfl

/-- Where nothing but a character of a set can be taken, it is taken if it is in the set. -/
theorem next_take (c : Char) (r : Regex) :
    next c [.take set r] = if set.contains c then [r] else [] := by
  by_cases hc : set.contains c
  · simp only [next, after, Head.isDone, hc, List.takeWhile_cons_of_pos, Bool.not_false, if_true]; rfl
  · simp [next, after, Head.isDone, hc]

/-- A set matches one character of it. -/
theorem matchLength_chars {c : Char} {rest : List Char} :
    (chars set).matchLength (c :: rest) = if set.contains c then some 1 else none := by
  have hheads : ∀ place, List.flatMap (heads place) [chars set] = [.take set empty] := fun _ => rfl
  simp only [matchLength, follow, hheads, next_take]
  by_cases hc : set.contains c
  · simp only [hc, if_true, follow_empty]
  · simp only [hc, List.any_cons, List.any_nil, Head.isDone, Bool.or_false]; rfl

end Regex

/-- Every character is in the set of all. -/
theorem CharSet.contains_all (c : Char) : CharSet.all.contains c := by
  have := Text.toNat_lt c
  simp only [all, contains, mem, Unicode.lastCodePoint, Nat.zero_le, decide_true, Bool.true_and,
    decide_eq_true_eq]
  omega

end GraphLexer
