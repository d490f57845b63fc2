/-
Patterns: the notation of regular expressions, and what it means.

`Regex.parse?` reads a pattern, or refuses it. A dot matches every character, line breaks included,
unless a flag says otherwise. There are no look-around and no back references.

  * `escape` reads what follows a backslash, within and outside of classes;
  * `classBody` reads a bracketed class, with nested classes and the operators `&&`, `--` and `~~`;
  * `branches` reads alternatives up to the end of their group.

Groups, repetitions, classes and so on may be nested at most `maxHeight` levels deep. Without the
Unicode flag a pattern still matches characters and not bytes, so all that could match half a
character (a dot, a negated class, a byte beyond ASCII) is refused. A pattern is not refused for the size
of its meaning. Graphs are made with any `Engine`, of which this is one.
-/
import GraphLexer.Pattern.Regex

namespace GraphLexer.Pattern

/-- The flags in force. -/
structure Flags where
  ignoreCase : Bool
  multiLine : Bool
  dotAll : Bool
  swapGreed : Bool
  unicode : Bool
  crlf : Bool
  verbose : Bool
  deriving DecidableEq, Repr

def Flags.initial : Flags :=
  ⟨false, false, true, false, true, false, false⟩

def maxHeight : Nat := 250

/-! ## Blanks -/

/-- Passes over blanks and comments; `comment` says whether it starts within a comment. -/
def skipBlanks : Bool → List Char → List Char
  | _, [] => []
  | true, c :: cs => skipBlanks (c != '\n') cs
  | false, c :: cs =>
    if Unicode.isSpace c then skipBlanks false cs
    else if c = '#' then skipBlanks true cs
    else c :: cs

/-- Passes over what verbose patterns ignore. -/
def skip (flags : Flags) (cs : List Char) : List Char :=
  if flags.verbose then skipBlanks false cs else cs

/-- The character after the first one that is not ignored. A comment in between is passed over only
    as far as its mark. -/
def peek (flags : Flags) (cs : List Char) : Option Char :=
  let rest := cs.drop 1
  if flags.verbose then
    match rest.dropWhile Unicode.isSpace with
    | [] => rest.head?
    | '#' :: comment =>
      match comment.dropWhile Unicode.isSpace with
      | [] => rest.head?
      | c :: _ => some c
    | c :: _ => some c
  else rest.head?

/-! ## Numbers -/

def hexValue? (c : Char) : Option Nat :=
  if c.isDigit then some (c.toNat - '0'.toNat)
  else if 'a' ≤ c ∧ c ≤ 'f' then some (c.toNat - 'a'.toNat + 10)
  else if 'A' ≤ c ∧ c ≤ 'F' then some (c.toNat - 'A'.toNat + 10)
  else none

def charOf? (n : Nat) : Option Char :=
  if n.isValidChar then some (Char.ofNat n) else none

def hexFixed (flags : Flags) : Nat → Nat → List Char → Option (Nat × List Char)
  | 0, n, cs => some (n, cs)
  | _ + 1, _, [] => none
  | count + 1, n, c :: cs => do
    let d ← hexValue? c
    hexFixed flags count (16 * n + d) (skip flags cs)

/-- A number of hexadecimal digits up to a closing brace, in at most `fuel` steps. -/
def hexBraced (flags : Flags) : Nat → Option Nat → List Char → Option (Nat × List Char)
  | 0, _, _ => none
  | _ + 1, _, [] => none
  | fuel + 1, n, c :: cs =>
    if c = '\x7d' then n.map fun n => (n, skip flags cs)
    else do
      let d ← hexValue? c
      hexBraced flags fuel (some (16 * n.getD 0 + d)) (skip flags cs)

/-- The digits of a decimal number, in at most `fuel` steps. -/
def decimalDigits (flags : Flags) : Nat → Option Nat → List Char → Option Nat × List Char
  | 0, n, cs => (n, cs)
  | _ + 1, n, [] => (n, [])
  | fuel + 1, n, c :: cs =>
    if c.isDigit then
      decimalDigits flags fuel (some (10 * n.getD 0 + (c.toNat - '0'.toNat))) (skip flags cs)
    else (n, c :: cs)

def decimal (flags : Flags) (cs : List Char) : Option Nat × List Char :=
  let (n, rest) := decimalDigits flags cs.length none (cs.dropWhile Unicode.isSpace)
  match rest.dropWhile Unicode.isSpace with
  | [] => (n, [])
  | c :: cs =>
    if (rest.head?.map Unicode.isSpace) = some true then (n, skip flags (c :: cs)) else (n, c :: cs)

def count? (n : Option Nat) : Option Nat :=
  n.filter (· < 0x100000000)

/-! ## Escapes -/

/-- What stands for a single element of a pattern. -/
inductive Atom where
  /-- a character; `byte` if it was written as a byte of two digits -/
  | literal (c : Char) (byte : Bool)
  /-- a class of characters -/
  | set (s : CharSet)
  | look (l : Look)

/-- The set and its closure under case, if case is ignored. -/
def withCase (flags : Flags) (s : CharSet) : CharSet :=
  if flags.ignoreCase then (if flags.unicode then .anyCase s else .anyAsciiCase s) else s

/-- The set or, if negated, all other characters. -/
def negate? (flags : Flags) (negated : Bool) (s : CharSet) : Option CharSet :=
  if negated then (if flags.unicode then some (.compl s) else none) else some s

/-- A set under the flags, and negated if asked for. -/
def close? (flags : Flags) (negated : Bool) (s : CharSet) : Option CharSet :=
  negate? flags negated (withCase flags s)

/-- The class of digits, white space or word characters. -/
def perlSet (flags : Flags) (letter : Char) : CharSet :=
  match letter with
  | 'd' => .table (if flags.unicode then Unicode.categoryRanges "nd" else [(0x30, 0x39)])
  | 's' => .table (if flags.unicode then Unicode.space else [(0x9, 0xD), (0x20, 0x20)])
  | _ => .table (if flags.unicode then Unicode.word else Unicode.asciiWord)

/-- Cuts a text at the first place where another one stands in it. -/
def splitAt? (mark : List Char) : List Char → Option (List Char × List Char)
  | [] => none
  | c :: cs =>
    if mark.isPrefixOf (c :: cs) then some ([], (c :: cs).drop mark.length)
    else (splitAt? mark cs).map fun (a, b) => (c :: a, b)

/-- The characters of a property in braces, and whether its value is excluded. -/
def property? (name : List Char) : Option (Unicode.Ranges × Bool) :=
  let value (excluded : Bool) (parts : List Char × List Char) :=
    (Unicode.byValue? (String.ofList parts.1) (String.ofList parts.2)).map (·, excluded)
  match splitAt? ['!', '='] name with
  | some parts => value true parts
  | none =>
    match splitAt? [':'] name with
    | some parts => value false parts
    | none =>
      match splitAt? ['='] name with
      | some parts => value false parts
      | none => (Unicode.byName? (String.ofList name)).map (·, false)

/-- The name of a property up to a closing brace, in at most `fuel` steps. -/
def bracedName (flags : Flags) : Nat → List Char → Option (List Char × List Char)
  | 0, _ => none
  | _ + 1, [] => none
  | fuel + 1, c :: cs =>
    if c = '\x7d' then some ([], cs)
    else (bracedName flags fuel (skip flags cs)).map fun (name, rest) => (c :: name, rest)

def unicodeClass (flags : Flags) (negated : Bool) (cs : List Char) : Option (CharSet × List Char) :=
  match skip flags cs with
  | [] => none
  | c :: rest =>
    if c = '\x7b' then do
      let (name, rest) ← bracedName flags (rest.length + 1) (skip flags rest)
      if flags.unicode then
        let (ranges, excluded) ← property? name
        let set ← close? flags (negated != excluded) (.table ranges)
        some (set, rest)
      else none
    else if c = '\\' ∨ ¬ flags.unicode then none
    else do
      let ranges ← Unicode.byName? (String.ofList [c])
      let set ← close? flags negated (.table ranges)
      some (set, skip flags rest)

/-- A character by its code point, after the letter of the escape. -/
def hexEscape (flags : Flags) (letter : Char) (cs : List Char) : Option (Atom × List Char) := do
  match skip flags cs with
  | [] => none
  | c :: rest =>
    if c = '\x7b' then do
      let (n, rest) ← hexBraced flags (rest.length + 1) none (skip flags rest)
      let c ← charOf? n
      some (.literal c false, rest)
    else do
      let count := if letter = 'x' then 2 else if letter = 'u' then 4 else 8
      let (n, rest) ← hexFixed flags count 0 (c :: rest)
      let c ← charOf? n
      some (.literal c (letter == 'x'), rest)

/-- The test that a name in braces after `\b` stands for. -/
def wordTest? (name : List Char) : Option WordTest :=
  match String.ofList name with
  | "start" => some .start
  | "end" => some .stop
  | "start-half" => some .startHalf
  | "end-half" => some .stopHalf
  | _ => none

/-- Whether a character can be in the name of a test. -/
def isTestChar (c : Char) : Bool :=
  c.isAlpha || c == '-'

/-- The name of a test, in at most `fuel` steps. -/
def testName (flags : Flags) : Nat → List Char → List Char × List Char
  | 0, cs => ([], cs)
  | _ + 1, [] => ([], [])
  | fuel + 1, c :: cs =>
    if isTestChar c then
      let (name, rest) := testName flags fuel (skip flags cs)
      (c :: name, rest)
    else ([], c :: cs)

/-- A test for words after `\b`: named in braces, unless what is in the braces is a repetition. -/
def boundary (flags : Flags) (cs : List Char) : Option (Atom × List Char) :=
  let ascii := !flags.unicode
  match cs with
  | '\x7b' :: rest =>
    match skip flags rest with
    | [] => none
    | c :: inside =>
      if isTestChar c then do
        let (name, rest) := testName flags (c :: inside).length (c :: inside)
        match rest with
        | '\x7d' :: rest => (wordTest? name).map fun test => (.look (.word ascii test), rest)
        | _ => none
      else some (.look (.word ascii .boundary), cs)
  | _ => some (.look (.word ascii .boundary), cs)

def escape (flags : Flags) (cs : List Char) : Option (Atom × List Char) :=
  match cs with
  | [] => none
  | c :: rest =>
    let char (c : Char) : Option (Atom × List Char) := some (.literal c false, rest)
    let look (l : Look) : Option (Atom × List Char) := some (.look l, rest)
    let ascii := !flags.unicode
    match c with
    | 'x' | 'u' | 'U' => hexEscape flags c rest
    | 'p' => (unicodeClass flags false rest).map fun (s, left) => (.set s, left)
    | 'P' => (unicodeClass flags true rest).map fun (s, left) => (.set s, left)
    | 'd' | 's' | 'w' => some (.set (perlSet flags c), rest)
    | 'D' | 'S' | 'W' => (negate? flags true (perlSet flags c.toLower)).map fun s => (.set s, rest)
    | 'a' => char '\x07'
    | 'f' => char '\x0c'
    | 't' => char '\t'
    | 'n' => char '\n'
    | 'r' => char '\r'
    | 'v' => char '\x0b'
    | 'A' => look .textStart
    | 'z' => look .textEnd
    | 'b' => boundary flags rest
    | 'B' => look (.word ascii .notBoundary)
    | '<' => look (.word ascii .start)
    | '>' => look (.word ascii .stop)
    | c => if c.toNat < 0x80 ∧ ¬ c.isAlphanum then char c else none

/-! ## Classes -/

/-- A set and how deep it is nested. -/
structure SetPiece where
  set : CharSet
  height : Nat

/-- The operators between sets. -/
inductive SetOp where
  | inter
  | diff
  | symmDiff
  deriving DecidableEq, Repr

def unionOf : List SetPiece → SetPiece
  | [] => ⟨.none, 0⟩
  | [p] => p
  | ps => ⟨ps.foldl (fun s p => .union s p.set) .none, 1 + (ps.map (·.height)).foldl max 0⟩

/-- The left side of an operator applied to the right one. -/
def combine (flags : Flags) (left : Option (SetOp × SetPiece)) (right : SetPiece) : SetPiece :=
  match left with
  | none => right
  | some (op, l) =>
    let a := withCase flags l.set
    let b := withCase flags right.set
    let set := match op with
      | .inter => CharSet.inter a b
      | .diff => CharSet.diff a b
      | .symmDiff => CharSet.symmDiff a b
    ⟨set, 1 + max l.height right.height⟩

/-- The characters of a class of ASCII by name. -/
def asciiSet? (name : List Char) : Option Unicode.Ranges :=
  match String.ofList name with
  | "alnum" => some [(0x30, 0x39), (0x41, 0x5A), (0x61, 0x7A)]
  | "alpha" => some [(0x41, 0x5A), (0x61, 0x7A)]
  | "ascii" => some [(0, 0x7F)]
  | "blank" => some [(0x9, 0x9), (0x20, 0x20)]
  | "cntrl" => some [(0, 0x1F), (0x7F, 0x7F)]
  | "digit" => some [(0x30, 0x39)]
  | "graph" => some [(0x21, 0x7E)]
  | "lower" => some [(0x61, 0x7A)]
  | "print" => some [(0x20, 0x7E)]
  | "punct" => some [(0x21, 0x2F), (0x3A, 0x40), (0x5B, 0x60), (0x7B, 0x7E)]
  | "space" => some [(0x9, 0xD), (0x20, 0x20)]
  | "upper" => some [(0x41, 0x5A)]
  | "word" => some Unicode.asciiWord
  | "xdigit" => some [(0x30, 0x39), (0x41, 0x46), (0x61, 0x66)]
  | _ => none

/-- A class of ASCII such as `[:alpha:]`, after its bracket, and whether it is negated. If it is none,
    the bracket opens a nested class. -/
def asciiClass? (cs : List Char) : Option (Unicode.Ranges × Bool × List Char) :=
  match cs with
  | ':' :: rest =>
    let (negated, rest) := match rest with
      | '^' :: rest => (true, rest)
      | _ => (false, rest)
    match rest.dropWhile (· != ':') with
    | ':' :: ']' :: left =>
      (asciiSet? (rest.takeWhile (· != ':'))).map fun ranges => (ranges, negated, left)
    | _ => none
  | _ => none

def classChar? (flags : Flags) (c : Char) : Option Nat :=
  if flags.unicode ∨ c.toNat < 0x80 then some c.toNat else none

/-- An element of a class: a literal or an escape. -/
def classAtom (flags : Flags) (cs : List Char) : Option (Atom × List Char) :=
  match cs with
  | [] => none
  | '\\' :: rest => escape flags rest
  | c :: rest => some (.literal c false, rest)

/-- The set of an element that is no end of a range. -/
def atomSet? (flags : Flags) : Atom → Option CharSet
  | .literal c _ => (classChar? flags c).map fun n => .range n n
  | .set s => some s
  | .look _ => none

/-- The code point of an element that is an end of a range. -/
def rangeEnd? (flags : Flags) : Atom → Option Nat
  | .literal c _ => classChar? flags c
  | _ => none

/-- An element of a class, or a range of two. -/
def classRange (flags : Flags) (cs : List Char) : Option (CharSet × List Char) := do
  let (first, rest) ← classAtom flags cs
  let rest := skip flags rest
  match rest with
  | [] => none
  | '-' :: after =>
    if peek flags rest = some ']' ∨ peek flags rest = some '-' then do
      let s ← atomSet? flags first
      some (s, rest)
    else do
      let (last, rest) ← classAtom flags (skip flags after)
      let low ← rangeEnd? flags first
      let high ← rangeEnd? flags last
      if low ≤ high then some (.range low high, rest) else none
  | _ => do
    let s ← atomSet? flags first
    some (s, rest)

/-- The hyphens at the start of a class, in at most `fuel` steps. -/
def leadingHyphens (flags : Flags) : Nat → List Char → Nat × List Char
  | 0, cs => (0, cs)
  | fuel + 1, cs =>
    match cs with
    | '-' :: rest =>
      let (n, rest) := leadingHyphens flags fuel (skip flags rest)
      (n + 1, rest)
    | _ => (0, cs)

/-- The start of a class, after its bracket: whether it is negated, and the literals that only here
    need no escape. -/
def classStart (flags : Flags) (cs : List Char) : Bool × List SetPiece × List Char :=
  let cs := skip flags cs
  let (negated, cs) := match cs with
    | '^' :: rest => (true, skip flags rest)
    | _ => (false, cs)
  let (hyphens, cs) := leadingHyphens flags cs.length cs
  let literals := List.replicate hyphens ⟨.single '-', 0⟩
  match hyphens, cs with
  | 0, ']' :: rest => (negated, [⟨.single ']', 0⟩], skip flags rest)
  | _, _ => (negated, literals, cs)

/-- A class up to its closing bracket, in at most `fuel` steps: `left` is the left side of an operator
    and `union` what has been put together since. -/
def classBody (flags : Flags) :
    Nat → Bool → Option (SetOp × SetPiece) → List SetPiece → List Char → Option (SetPiece × List Char)
  | 0, _, _, _, _ => none
  | fuel + 1, negated, left, union, cs =>
    match skip flags cs with
    | [] => none
    | ']' :: rest => do
      let whole := combine flags left (unionOf union)
      let set ← close? flags negated whole.set
      some (⟨set, 1 + whole.height⟩, rest)
    | '[' :: rest =>
      match asciiClass? rest with
      | some (ranges, excluded, rest) => do
        let set ← close? flags excluded (.table ranges)
        classBody flags fuel negated left (union ++ [⟨set, 0⟩]) rest
      | none => do
        let (excluded, literals, rest) := classStart flags rest
        let (inner, rest) ← classBody flags fuel excluded none literals rest
        classBody flags fuel negated left (union ++ [inner]) rest
    | '&' :: '&' :: rest =>
      classBody flags fuel negated (some (.inter, combine flags left (unionOf union))) [] rest
    | '-' :: '-' :: rest =>
      classBody flags fuel negated (some (.diff, combine flags left (unionOf union))) [] rest
    | '~' :: '~' :: rest =>
      classBody flags fuel negated (some (.symmDiff, combine flags left (unionOf union))) [] rest
    | cs => do
      let (set, rest) ← classRange flags cs
      classBody flags fuel negated left (union ++ [⟨set, 0⟩]) rest

/-! ## Groups -/

/-- A part of a pattern: its meaning, how deep it is nested, whether a repetition may follow it, and
    the names of the groups in it. -/
structure Piece where
  regex : Regex
  height : Nat
  repeatable : Bool
  names : List String

/-- The pieces of a branch, the last one first, one after the other. -/
def sequence (ps : List Piece) : Piece :=
  match ps with
  | [] => ⟨.empty, 0, true, []⟩
  | [p] => p
  | p :: before =>
    ⟨before.foldl (fun r q => q.regex.andThen r) p.regex,
      1 + (before.map (·.height)).foldl max p.height, true,
      p.names ++ before.flatMap (·.names)⟩

/-- The branches of a group, the last one first, as alternatives. -/
def alternatives : Piece → List Piece → Piece
  | last, [] => last
  | last, ps =>
    ⟨ps.foldl (fun r p => .alt p.regex r) last.regex,
      1 + (ps.map (·.height)).foldl max last.height, true, last.names ++ ps.flatMap (·.names)⟩

def grouped (name : Option String) (p : Piece) : Piece :=
  ⟨p.regex, p.height + 1, true, name.toList ++ p.names⟩

def repeatLast (ps : List Piece) (f : Regex → Regex) : Option (List Piece) :=
  match ps with
  | [] => none
  | p :: before =>
    if p.repeatable then some (⟨f p.regex, p.height + 1, true, p.names⟩ :: before) else none

/-- A question mark after a repetition, and what follows it. -/
def lazyMark (cs : List Char) : Bool × List Char :=
  match cs with
  | '?' :: rest => (true, rest)
  | _ => (false, cs)

/-- A repetition with counts, after its opening brace: its bounds and what follows the closing one. -/
def counts (flags : Flags) (cs : List Char) : Option (Nat × Option Nat × List Char) := do
  let cs := skip flags cs
  if cs.isEmpty then none
  let (min, rest) := decimal flags cs
  let (bounds, rest) ←
    match rest with
    | ',' :: rest =>
      match skip flags rest with
      | [] => none
      | '\x7d' :: rest => do
        let min ← count? min
        some ((min, none), '\x7d' :: rest)
      | rest => do
        let min ← count? min
        let (max, rest) := decimal flags rest
        let max ← count? max
        if min ≤ max then some ((min, some max), rest) else none
    | rest => do
      let min ← count? min
      some ((min, some min), rest)
  match rest with
  | '\x7d' :: rest => some (bounds.1, bounds.2, skip flags rest)
  | _ => none

/-- Whether a character can be in the name of a group, at its start or later. -/
def isNameChar (first : Bool) (c : Char) : Bool :=
  let inTable (name : String) := ((Unicode.byName? name).getD []).mem c.toNat
  let letter := if c.toNat < 0x80 then c.isAlpha else inTable "alphabetic"
  if first then c == '_' || letter
  else
    c == '_' || c == '.' || c == '[' || c == ']' || letter
      || (if c.toNat < 0x80 then c.isDigit else inTable "number")

/-- The name of a group, up to the bracket after it. -/
def groupName? (cs : List Char) : Option (String × List Char) :=
  let name := cs.takeWhile (· != '>')
  match name, cs.dropWhile (· != '>') with
  | c :: more, '>' :: rest =>
    if isNameChar true c && more.all (isNameChar false) then some (String.ofList name, rest) else none
  | _, _ => none

def Flags.set? (flags : Flags) (value : Bool) (letter : Char) : Option Flags :=
  match letter with
  | 'i' => some { flags with ignoreCase := value }
  | 'm' => some { flags with multiLine := value }
  | 's' => some { flags with dotAll := value }
  | 'U' => some { flags with swapGreed := value }
  | 'u' => some { flags with unicode := value }
  | 'R' => some { flags with crlf := value }
  | 'x' => some { flags with verbose := value }
  | _ => none

/-- The flags of a group, up to the colon or parenthesis after them: the new flags, and the rest from
    that character on. `seen` holds the letters and the minus met so far, the last one first. -/
def flagLetters (flags : Flags) (value : Bool) (seen : List Char) :
    List Char → Option (Flags × List Char × List Char)
  | [] => none
  | c :: cs =>
    if c = ':' ∨ c = ')' then
      if seen.head? = some '-' then none else some (flags, seen, c :: cs)
    else if seen.contains c then none
    else if c = '-' then flagLetters flags false (c :: seen) cs
    else do
      let flags ← flags.set? value c
      flagLetters flags value (c :: seen) cs

/-- What an opening parenthesis begins. -/
inductive Opening where
  /-- a group, with its flags and name -/
  | group (flags : Flags) (name : Option String) (rest : List Char)
  /-- flags for the rest of the group around it -/
  | flags (flags : Flags) (rest : List Char)

/-- What an opening parenthesis begins, given what is after it. -/
def opening (flags : Flags) (cs : List Char) : Option Opening :=
  match skip flags cs with
  | '?' :: '=' :: _ => none
  | '?' :: '!' :: _ => none
  | '?' :: '<' :: '=' :: _ => none
  | '?' :: '<' :: '!' :: _ => none
  | '?' :: 'P' :: '<' :: rest => (groupName? rest).map fun (name, left) => .group flags (some name) left
  | '?' :: '<' :: rest => (groupName? rest).map fun (name, left) => .group flags (some name) left
  | '?' :: rest => do
    let (flags, seen, rest) ← flagLetters flags true [] rest
    match rest with
    | ')' :: rest => if seen.isEmpty then none else some (.flags flags rest)
    | _ => some (.group flags none (rest.drop 1))
  | rest => some (.group flags none rest)

def literal? (flags : Flags) (c : Char) (byte : Bool) : Option Regex :=
  if byte ∧ ¬ flags.unicode ∧ 0x80 ≤ c.toNat then none
  else some (.chars (withCase flags (.single c)))

/-- The meaning of an element, outside of classes. -/
def atomRegex? (flags : Flags) : Atom → Option Regex
  | .literal c byte => literal? flags c byte
  | .set s => some (.chars s)
  | .look l => some (.look l)

def dot? (flags : Flags) : Option Regex :=
  if ¬ flags.unicode then none
  else if flags.dotAll then some (.chars .all)
  else if flags.crlf then some (.chars (.compl (.union (.single '\r') (.single '\n'))))
  else some (.chars (.compl (.single '\n')))

def startLook (flags : Flags) : Look :=
  if flags.multiLine then (if flags.crlf then .crlfStart else .lineStart) else .textStart

def endLook (flags : Flags) : Look :=
  if flags.multiLine then (if flags.crlf then .crlfEnd else .lineEnd) else .textEnd

def leaf (r : Regex) : Piece :=
  ⟨r, 0, true, []⟩

/-- The branches of a group up to its closing parenthesis or the end of the pattern, in at most `fuel`
    steps. `done` holds the branches before the current one and `ps` its pieces, the last ones
    first. -/
def branches : Nat → Flags → List Piece → List Piece → List Char → Option (Piece × List Char)
  | 0, _, _, _, _ => none
  | fuel + 1, flags, done, ps, cs =>
    match skip flags cs with
    | [] => some (alternatives (sequence ps) done, [])
    | c :: rest =>
      match c with
      | ')' => some (alternatives (sequence ps) done, c :: rest)
      | '|' => branches fuel flags (sequence ps :: done) [] rest
      | '(' => do
        match ← opening flags rest with
        | .flags flags rest => branches fuel flags done (⟨.empty, 0, false, []⟩ :: ps) rest
        | .group inner name rest =>
          match ← branches fuel inner [] [] rest with
          | (p, ')' :: rest) => branches fuel flags done (grouped name p :: ps) rest
          | _ => none
      | '[' => do
        let (negated, literals, rest) := classStart flags rest
        let (p, rest) ← classBody flags fuel negated none literals rest
        branches fuel flags done (⟨.chars p.set, p.height, true, []⟩ :: ps) rest
      | '?' | '*' | '+' => do
        let (isLazy, rest) := lazyMark rest
        let greedy := isLazy == flags.swapGreed
        let ps ← repeatLast ps fun r =>
          match c with
          | '?' => .rep greedy 0 (some 1) r
          | '*' => .rep greedy 0 none r
          | _ => .rep greedy 1 none r
        branches fuel flags done ps rest
      | '\x7b' => do
        let (min, max, rest) ← counts flags rest
        let (isLazy, rest) := lazyMark rest
        let greedy := isLazy == flags.swapGreed
        let ps ← repeatLast ps fun r => .rep greedy min max r
        branches fuel flags done ps rest
      | '\\' => do
        let (atom, rest) ← escape flags rest
        let r ← atomRegex? flags atom
        branches fuel flags done (leaf r :: ps) rest
      | '.' => do
        let r ← dot? flags
        branches fuel flags done (leaf r :: ps) rest
      | '^' => branches fuel flags done (leaf (.look (startLook flags)) :: ps) rest
      | '$' => branches fuel flags done (leaf (.look (endLook flags)) :: ps) rest
      | _ => do
        let r ← literal? flags c false
        branches fuel flags done (leaf r :: ps) rest

end Pattern

/-- The meaning of a pattern, unless it is refused. No group has the name of another one. -/
def Regex.parse? (pattern : List Char) : Option Regex :=
  match Pattern.branches (pattern.length + 1) .initial [] [] pattern with
  | some (p, []) => if p.height ≤ Pattern.maxHeight ∧ p.names.Nodup then some p.regex else none
  | _ => none

/-- The engine of this library: patterns are read, and their meaning is matched. -/
def Regex.engine : Engine :=
  ⟨fun pattern => (parse? pattern).map matcher⟩

end GraphLexer
