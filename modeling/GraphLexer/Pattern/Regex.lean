/-
Regular expressions and their matches at the start of a text.

Alternatives have an order of preference, and the preferred match is the answer: the left side of an
alternation before the right one, another round of a greedy repetition before leaving it.

  * `walk` lists what an expression can do first, in the order of preference: be done, or take a
    character of a set and go on as another expression;
  * `matchLength` follows all expressions that are still possible through the text, most preferred
    first, and drops those that are less preferred than one that is done.

A walk passes each point where it has a choice once, and turns back where it meets one again. So a
round that takes no character is not followed by another round at the same place.
-/
import GraphLexer.Pattern.CharSet

namespace GraphLexer

/-- A test between a character and a class of characters that make up words. -/
inductive WordTest where
  /-- a word starts or ends here -/
  | boundary
  /-- no word starts or ends here -/
  | notBoundary
  /-- a word starts here -/
  | start
  /-- a word ends here -/
  | stop
  /-- no word goes up to here -/
  | startHalf
  /-- no word goes on from here -/
  | stopHalf
  deriving DecidableEq, Repr

/-- A test of a place in the text, which takes no character. -/
inductive Look where
  | textStart
  | textEnd
  | lineStart
  | lineEnd
  /-- a line starts, where lines may end in a carriage return, a line feed or both -/
  | crlfStart
  /-- a line of that kind ends -/
  | crlfEnd
  /-- a test for words, of all word characters or of those of ASCII -/
  | word (ascii : Bool) (test : WordTest)
  deriving DecidableEq, Repr

/-- A place in the text: the characters before and after it. -/
structure Place where
  before : Option Char
  after : Option Char

namespace Look

/-- Whether there is a word character on a side of a place. -/
def wordSide (ascii : Bool) (side : Option Char) : Bool :=
  match side with
  | none => false
  | some c => if ascii then Unicode.asciiWord.mem c.toNat else Unicode.isWord c.toNat

/-- Whether a test holds, given whether there are word characters before and after. -/
def wordHolds (before after : Bool) : WordTest → Bool
  | .boundary => before != after
  | .notBoundary => before == after
  | .start => !before && after
  | .stop => before && !after
  | .startHalf => !before
  | .stopHalf => !after

def holds (place : Place) : Look → Bool
  | textStart => place.before.isNone
  | textEnd => place.after.isNone
  | lineStart => place.before.isNone || place.before == some '\n'
  | lineEnd => place.after.isNone || place.after == some '\n'
  | crlfStart =>
    place.before.isNone || place.before == some '\n'
      || (place.before == some '\r' && place.after != some '\n')
  | crlfEnd =>
    place.after.isNone || place.after == some '\r'
      || (place.after == some '\n' && place.before != some '\r')
  | word ascii test => wordHolds (wordSide ascii place.before) (wordSide ascii place.after) test

end Look

/-- A regular expression. -/
inductive Regex where
  /-- takes nothing -/
  | empty
  /-- takes a character of a set -/
  | chars (set : CharSet)
  | look (test : Look)
  | seq (a b : Regex)
  | alt (a b : Regex)
  /-- between `min` and `max` rounds, `max = none` for any number -/
  | rep (greedy : Bool) (min : Nat) (max : Option Nat) (a : Regex)
  /-- any number of further rounds, after one -/
  | more (greedy : Bool) (a : Regex)
  deriving DecidableEq, Repr

/-- What an expression can do first. -/
inductive Head where
  | done
  | take (set : CharSet) (next : Regex)
  deriving DecidableEq, Repr

namespace Head

def isDone : Head → Bool
  | done => true
  | take _ _ => false

end Head

namespace Regex

def andThen : Regex → Regex → Regex
  | empty, b => b
  | a, empty => a
  | a, b => seq a b

end Regex

/-- From the choices that were met to what can be done first, and the choices that were met then. A
    choice is named by the expression that is left to match where it is made. -/
abbrev Walk := List Regex → List Head × List Regex

namespace Walk

def stuck : Walk :=
  fun met => ([], met)

def done : Walk :=
  fun met => ([.done], met)

/-- One way or, with less preference, the other one. -/
def orElse (first second : Walk) : Walk :=
  fun met =>
    let (hs, met) := first met
    let (hs', met) := second met
    (hs ++ hs', met)

def choice (point : Regex) (w : Walk) : Walk :=
  fun met => if point ∈ met then ([], met) else w (point :: met)

def round (greedy : Bool) (again leave : Walk) : Walk :=
  if greedy then again.orElse leave else leave.orElse again

end Walk

namespace Regex

/-! ## Repetitions

In what follows, `next` is the expression after the repetition and `leave` the walk through it; `body`
is the walk through a round, given what comes after the round. -/

def isNullable : Regex → Bool
  | empty => true
  | chars _ => false
  | look _ => true
  | seq a b => a.isNullable && b.isNullable
  | alt a b => a.isNullable || b.isNullable
  | rep _ min _ a => min == 0 || a.isNullable
  | more _ _ => true

/-- Any number of further rounds. One that takes nothing leads back to this choice. -/
def anyRounds (greedy : Bool) (a next : Regex) (leave : Walk) (body : Regex → Walk → Walk) : Walk :=
  .choice ((more greedy a).andThen next)
    (.round greedy (body ((more greedy a).andThen next) .stuck) leave)

/-- Leaving after a round that took nothing: another round would start where this one started. -/
def leaveRounds (greedy : Bool) (a next : Regex) (leave : Walk) : Walk :=
  .choice ((more greedy a).andThen next) leave

def upTo (greedy : Bool) (a next : Regex) (leave : Walk) (body : Regex → Walk → Walk) : Nat → Walk
  | 0 => leave
  | max + 1 =>
    .choice ((rep greedy 0 (some (max + 1)) a).andThen next)
      (.round greedy
        (body ((rep greedy 0 (some max) a).andThen next) (upTo greedy a next leave body max)) leave)

/-- At least `min` rounds. If each of them takes something, the first one is like any other. -/
def atLeast (greedy : Bool) (a next : Regex) (leave : Walk) (body : Regex → Walk → Walk) : Nat → Walk
  | 0 =>
    if a.isNullable then
      .choice ((rep greedy 0 none a).andThen next)
        (.round greedy
          (body ((more greedy a).andThen next) (leaveRounds greedy a next leave)) leave)
    else anyRounds greedy a next leave body
  | 1 => body ((more greedy a).andThen next) (leaveRounds greedy a next leave)
  | min + 2 =>
    body ((rep greedy (min + 1) none a).andThen next) (atLeast greedy a next leave body (min + 1))

def between (greedy : Bool) (a next : Regex) (leave : Walk) (body : Regex → Walk → Walk)
    (extra : Nat) : Nat → Walk
  | 0 => upTo greedy a next leave body extra
  | min + 1 =>
    body ((rep greedy min (some (min + extra)) a).andThen next)
      (between greedy a next leave body extra min)

/-! ## Matching -/

/-- The walk through an expression at a place, where `next` is the expression after it and `leave` the
    walk through that one. -/
def walk (place : Place) : Regex → Regex → Walk → Walk
  | empty, _, leave => leave
  | chars set, next, _ => fun met => ([.take set next], met)
  | look test, _, leave => if test.holds place then leave else .stuck
  | seq a b, next, leave => walk place a (b.andThen next) (walk place b next leave)
  | alt a b, next, leave =>
    .choice ((alt a b).andThen next) ((walk place a next leave).orElse (walk place b next leave))
  | rep greedy min none a, next, leave => atLeast greedy a next leave (walk place a) min
  | rep greedy min (some max) a, next, leave =>
    between greedy a next leave (walk place a) (max - min) min
  | more greedy a, next, leave => anyRounds greedy a next leave (walk place a)

/-- What an expression can do first at a place. -/
def heads (place : Place) (a : Regex) : List Head :=
  (walk place a .empty .done []).1

/-- The expressions that are left after a character. -/
def after (c : Char) : List Head → List Regex
  | [] => []
  | .done :: hs => after c hs
  | .take set next :: hs => if set.contains c then next :: after c hs else after c hs

/-- The expressions that are left after a character, of those that are preferred to being done. -/
def next (c : Char) (hs : List Head) : List Regex :=
  (after c (hs.takeWhile fun h => !h.isDone)).eraseDups

/-- The length of the preferred match, following `threads` through the text. `taken` characters have
    been taken, the last of them `before`; `best` is the best match so far. -/
def follow (threads : List Regex) (before : Option Char) (taken : Nat) (best : Option Nat) :
    List Char → Option Nat
  | [] => if (threads.flatMap (heads ⟨before, none⟩)).any Head.isDone then some taken else best
  | c :: rest =>
    let hs := threads.flatMap (heads ⟨before, some c⟩)
    let best := if hs.any Head.isDone then some taken else best
    match next c hs with
    | [] => best
    | threads => follow threads (some c) (taken + 1) best rest

/-- The length of the preferred match at the start of a text. -/
def matchLength (a : Regex) (text : List Char) : Option Nat :=
  follow [a] none 0 none text

/-- What is found on the way was found before, or ends further on within the text. -/
theorem follow_between {threads : List Regex} {before : Option Char} {taken n : Nat}
    {best : Option Nat} {text : List Char} (h : follow threads before taken best text = some n) :
    best = some n ∨ taken ≤ n ∧ n ≤ taken + text.length := by
  induction text generalizing threads before taken best with
  | nil =>
    rw [follow] at h
    split at h
    · cases h; exact Or.inr ⟨Nat.le_refl _, Nat.le_refl _⟩
    · exact Or.inl h
  | cons c rest ih =>
    have hbest : ∀ {done : Bool}, (if done then some taken else best) = some n →
        best = some n ∨ taken ≤ n ∧ n ≤ taken + (rest.length + 1) := fun {done} h => by
      cases done
      · exact Or.inl h
      · cases h; exact Or.inr ⟨Nat.le_refl _, Nat.le_add_right _ _⟩
    rw [follow] at h
    rw [List.length_cons]
    split at h
    · exact hbest h
    · rcases ih h with h | h
      · exact hbest h
      · exact Or.inr (by omega)

theorem matchLength_le {r : Regex} {text : List Char} {n : Nat} (h : r.matchLength text = some n) :
    n ≤ text.length := by
  rcases follow_between h with h | ⟨-, h⟩
  · cases h
  · rwa [Nat.zero_add] at h

end Regex

/-! ## Engines -/

/-- A pattern that is ready to be matched: how much it takes at the start of a text, if it matches. It
    takes no more than there is. -/
structure Matcher where
  matchLength : List Char → Option Nat
  matchLength_le : ∀ {text n}, matchLength text = some n → n ≤ text.length

/-- What makes patterns ready to be matched, or refuses them. -/
structure Engine where
  compile : List Char → Option Matcher

def Regex.matcher (r : Regex) : Matcher :=
  ⟨r.matchLength, matchLength_le⟩

end GraphLexer
