/-
Reading JSON from left to right. A reader takes the characters that are left and gives a result and
what is left after it, or the first fault on the way:

  * `malformed`: the text is not JSON;
  * `cutShort`: the text ends too early;
  * `misshapen`: it is JSON, but not what was asked for.

`value` reads any value; `items` and `entries` are the loops of arrays and objects, for readers that
know what they expect; `skip` passes over a value that nobody asked for. At most `maxDepth` arrays
and objects may be open at once, except in what is skipped.
-/
import GraphLexer.Json.Value
import GraphLexer.Text.Units

namespace GraphLexer.Json

/-- What can be wrong with a JSON text. -/
inductive Fault where
  | malformed
  | cutShort
  | misshapen
  deriving DecidableEq, Repr

def Fault.category : Fault → String
  | .malformed => "Syntax"
  | .cutShort => "Eof"
  | .misshapen => "Data"

/-- From what is left of the text to a result and what is left after it. -/
abbrev Reader (α : Type) := List Char → Except Fault (α × List Char)

/-- How many arrays and objects may be open at once. -/
def maxDepth : Nat := 127

def isBlank (c : Char) : Bool :=
  c == ' ' || c == '\n' || c == '\t' || c == '\r'

def skipBlank (cs : List Char) : List Char :=
  cs.dropWhile isBlank

/-- The rest of a word whose first letter has been read. -/
def word : List Char → Reader Unit
  | [], cs => .ok ((), cs)
  | _ :: _, [] => .error .cutShort
  | e :: es, c :: cs => if c = e then word es cs else .error .malformed

/-! ## Numbers -/

/-- The first digits of a text and what follows them; `onEnd` is the fault of a text that has ended
    where a digit should be. -/
def digits (onEnd : Fault) (cs : List Char) : Except Fault (List Char × List Char) :=
  match cs with
  | [] => .error onEnd
  | c :: _ =>
    if c.isDigit then .ok (cs.takeWhile Char.isDigit, cs.dropWhile Char.isDigit)
    else .error .malformed

def digitsValue (ds : List Char) : Nat :=
  ds.foldl (fun n c => 10 * n + (c.toNat - '0'.toNat)) 0

/-- The parts of a number: its digits with the point left out, and the power of ten they are
    multiplied by; then its spelling. -/
structure Decimal where
  significand : Nat
  exponent : Int
  spelling : List Char

/-- The fraction of a number, if there is one. -/
def fraction (onEnd : Fault) (cs : List Char) : Except Fault (List Char × List Char) :=
  match cs with
  | '.' :: rest => digits onEnd rest
  | _ => .ok ([], cs)

/-- The exponent of a number, if there is one: its sign (if written) and digits. -/
def exponentPart (onEnd : Fault) (cs : List Char) :
    Except Fault (Option (Char × Option Char × List Char) × List Char) :=
  match cs with
  | [] => .ok (none, [])
  | c :: rest =>
    if c = 'e' ∨ c = 'E' then
      match rest with
      | s :: rest' =>
        if s = '+' ∨ s = '-' then
          (digits onEnd rest').map fun (ds, left) => (some (c, some s, ds), left)
        else
          (digits onEnd rest).map fun (ds, left) => (some (c, none, ds), left)
      | [] => .error onEnd
    else .ok (none, cs)

/-- A number without its sign. A zero is followed by no digit. -/
def decimal (onEnd : Fault) (cs : List Char) : Except Fault (Decimal × List Char) := do
  let (whole, rest) ← digits onEnd cs
  if whole.length > 1 ∧ whole.head? = some '0' then .error .malformed
  let (frac, rest) ← fraction onEnd rest
  let (exp, rest) ← exponentPart onEnd rest
  let significand := digitsValue (whole ++ frac)
  let point := if frac = [] then [] else '.' :: frac
  match exp with
  | none => .ok (⟨significand, -frac.length, whole ++ point⟩, rest)
  | some (mark, sign, ds) =>
    let power : Int := if sign = some '-' then -(digitsValue ds) else digitsValue ds
    .ok (⟨significand, power - frac.length, whole ++ point ++ mark :: sign.toList ++ ds⟩, rest)

/-- Where the numbers end that a binary64 float rounds to a finite one. -/
def floatLimit : Nat := Nat.pow 2 1024 - Nat.pow 2 970

/-- Whether a number is beyond the finite floats. -/
def Decimal.tooLarge (d : Decimal) : Bool :=
  if d.significand = 0 then false
  else if 308 < d.exponent then true
  else
    match d.exponent with
    | .ofNat e => floatLimit ≤ d.significand * Nat.pow 10 e
    | .negSucc e =>
      if (Nat.toDigits 10 d.significand).length ≤ e + 1 then false
      else floatLimit * Nat.pow 10 (e + 1) ≤ d.significand

def number (cs : List Char) : Except Fault (List Char × List Char) :=
  match cs with
  | '-' :: rest => do
    let (d, rest) ← decimal .cutShort rest
    if d.tooLarge then .error .malformed else .ok ('-' :: d.spelling, rest)
  | _ => do
    let (d, rest) ← decimal .cutShort cs
    if d.tooLarge then .error .malformed else .ok (d.spelling, rest)

/-! ## Strings -/

def hexValue? (c : Char) : Option Nat :=
  if c.isDigit then some (c.toNat - '0'.toNat)
  else if 'a' ≤ c ∧ c ≤ 'f' then some (c.toNat - 'a'.toNat + 10)
  else if 'A' ≤ c ∧ c ≤ 'F' then some (c.toNat - 'A'.toNat + 10)
  else none

/-- Four hexadecimal digits. A text with fewer than four bytes left is cut short. -/
def hex4 (cs : List Char) : Except Fault (Nat × List Char) :=
  if Text.byteLength (cs.take 4) < 4 then .error .cutShort
  else
    match cs with
    | a :: b :: c :: d :: rest =>
      match hexValue? a, hexValue? b, hexValue? c, hexValue? d with
      | some a, some b, some c, some d => .ok (0x1000 * a + 0x100 * b + 0x10 * c + d, rest)
      | _, _, _, _ => .error .malformed
    | _ => .error .malformed

/-- The character of an escape by units, after `\u`. The units of a surrogate pair are two escapes
    in a row; half a pair spells no character. -/
def escapedUnits (cs : List Char) : Except Fault (Char × List Char) := do
  let (n, rest) ← hex4 cs
  if n < 0xD800 ∨ 0xDFFF < n then .ok (Char.ofNat n, rest)
  else if 0xDC00 ≤ n then .error .malformed
  else
    match rest with
    | [] => .error .cutShort
    | ['\\'] => .error .cutShort
    | '\\' :: 'u' :: rest => do
      let (m, rest) ← hex4 rest
      if 0xDC00 ≤ m ∧ m ≤ 0xDFFF then
        .ok (Text.pairChar (UInt16.ofNat n) (UInt16.ofNat m), rest)
      else .error .malformed
    | _ => .error .malformed

/-- The character that a letter after a backslash stands for. -/
def escapeLetter? (c : Char) : Option Char :=
  match c with
  | '"' => some '"'
  | '\\' => some '\\'
  | '/' => some '/'
  | 'b' => some '\x08'
  | 'f' => some '\x0c'
  | 'n' => some '\n'
  | 'r' => some '\r'
  | 't' => some '\t'
  | _ => none

/-- The character of an escape, after the backslash. -/
def escaped (cs : List Char) : Except Fault (Char × List Char) :=
  match cs with
  | [] => .error .cutShort
  | 'u' :: rest => escapedUnits rest
  | c :: rest =>
    match escapeLetter? c with
    | some e => .ok (e, rest)
    | none => .error .malformed

/-- The characters of a string after its opening quote, read in at most `fuel` steps. -/
def charsUpTo : Nat → List Char → Except Fault (List Char × List Char)
  | 0, _ => .error .malformed
  | _, [] => .error .cutShort
  | fuel + 1, c :: cs =>
    if c = '"' then .ok ([], cs)
    else if c = '\\' then do
      let (e, rest) ← escaped cs
      let (es, rest) ← charsUpTo fuel rest
      .ok (e :: es, rest)
    else if c.toNat < 0x20 then .error .malformed
    else do
      let (es, rest) ← charsUpTo fuel cs
      .ok (c :: es, rest)

def stringBody (cs : List Char) : Except Fault (String × List Char) := do
  let (s, rest) ← charsUpTo (cs.length + 1) cs
  .ok (String.ofList s, rest)

/-! ## Arrays and objects -/

/-- The items of an array after its bracket, in at most `fuel` steps. -/
def itemsUpTo {α : Type} (item : Reader α) : Nat → Bool → Reader (List α)
  | 0, _, _ => .error .malformed
  | fuel + 1, first, cs =>
    match skipBlank cs with
    | [] => .error .cutShort
    | c :: rest =>
      if c = ']' then .ok ([], rest)
      else if first then do
        let (a, rest) ← item (c :: rest)
        let (as, rest) ← itemsUpTo item fuel false rest
        .ok (a :: as, rest)
      else if c = ',' then
        match skipBlank rest with
        | [] => .error .cutShort
        | c :: rest =>
          if c = ']' then .error .malformed
          else do
            let (a, rest) ← item (c :: rest)
            let (as, rest) ← itemsUpTo item fuel false rest
            .ok (a :: as, rest)
      else .error .malformed

/-- The items of an array, after its bracket. -/
def items {α : Type} (item : Reader α) : Reader (List α) :=
  fun cs => itemsUpTo item (cs.length + 1) true cs

def colon : Reader Unit :=
  fun cs =>
    match skipBlank cs with
    | [] => .error .cutShort
    | c :: rest => if c = ':' then .ok ((), rest) else .error .malformed

/-- The entries of an object after its brace, in at most `fuel` steps. `entry` takes the state so
    far and a key, and reads what follows the key. -/
def entriesUpTo {σ : Type} (entry : σ → String → Reader σ) : Nat → Bool → σ → Reader σ
  | 0, _, _, _ => .error .malformed
  | fuel + 1, first, s, cs =>
    match skipBlank cs with
    | [] => .error .cutShort
    | c :: rest =>
      if c = '\x7d' then .ok (s, rest)
      else if first ∨ c = ',' then
        match if first then c :: rest else skipBlank rest with
        | [] => .error .cutShort
        | q :: rest =>
          if q = '"' then do
            let (key, rest) ← stringBody rest
            let (s, rest) ← entry s key rest
            entriesUpTo entry fuel false s rest
          else .error .malformed
      else .error .malformed

/-- The entries of an object, after its brace. -/
def entries {σ : Type} (entry : σ → String → Reader σ) (s : σ) : Reader σ :=
  fun cs => entriesUpTo entry (cs.length + 1) true s cs

/-! ## Values -/

/-- A value that is neither array nor object. -/
def scalar : Reader Value :=
  fun cs =>
    match cs with
    | [] => .error .cutShort
    | c :: rest =>
      if c = 'n' then (word "ull".toList rest).map fun (_, left) => (.null, left)
      else if c = 't' then (word "rue".toList rest).map fun (_, left) => (.bool true, left)
      else if c = 'f' then (word "alse".toList rest).map fun (_, left) => (.bool false, left)
      else if c = '"' then (stringBody rest).map fun (s, left) => (.string s, left)
      else if c = '-' ∨ c.isDigit then
        (number (c :: rest)).map fun (spelling, left) => (.number spelling, left)
      else .error .malformed

/-- A value, with readers for what is inside an array and inside an object. -/
def valueWith (array : Reader (List Value)) (object : Reader (List (String × Value))) : Reader Value :=
  fun cs =>
    match skipBlank cs with
    | [] => .error .cutShort
    | c :: rest =>
      if c = '[' then (array rest).map fun (vs, left) => (.array vs, left)
      else if c = '\x7b' then (object rest).map fun (ms, left) => (.object ms, left)
      else scalar (c :: rest)

/-- What is inside an array or object that is one too deep. -/
def tooDeep {α : Type} : Reader α :=
  fun _ => .error .malformed

/-- A member of an object, after its key, put behind the members before it. -/
def member (value : Reader Value) (before : List (String × Value)) (key : String) :
    Reader (List (String × Value)) :=
  fun cs => do
    let (_, rest) ← colon cs
    let (v, rest) ← value rest
    .ok (before ++ [(key, v)], rest)

/-- A value in which `levels` arrays and objects may be open at once. -/
def value : Nat → Reader Value
  | 0 => valueWith tooDeep tooDeep
  | levels + 1 => valueWith (items (value levels)) (entries (member (value levels)) [])

/-! ## Values of a kind -/

/-- Refuses a value of the wrong kind. A scalar is read first, and a fault in it comes first. -/
def refuse {α : Type} (cs : List Char) : Except Fault α :=
  match cs with
  | [] => .error .cutShort
  | c :: _ =>
    if c = '[' ∨ c = '\x7b' then .error .misshapen
    else
      match scalar cs with
      | .error fault => .error fault
      | .ok _ => .error .misshapen

def stringValue : Reader String :=
  fun cs =>
    match skipBlank cs with
    | '"' :: rest => stringBody rest
    | cs => refuse cs

def boolValue : Reader Bool :=
  fun cs =>
    match skipBlank cs with
    | 't' :: rest => (word "rue".toList rest).map fun (_, left) => (true, left)
    | 'f' :: rest => (word "alse".toList rest).map fun (_, left) => (false, left)
    | cs => refuse cs

/-- An array, with a reader for what is inside. -/
def arrayValue {α : Type} (inside : Reader α) : Reader α :=
  fun cs =>
    match skipBlank cs with
    | '[' :: rest => inside rest
    | cs => refuse cs

/-- An object, with a reader for what is inside. -/
def objectValue {α : Type} (inside : Reader α) : Reader α :=
  fun cs =>
    match skipBlank cs with
    | '\x7b' :: rest => inside rest
    | cs => refuse cs

def finish (cs : List Char) : Except Fault Unit :=
  match skipBlank cs with
  | [] => .ok ()
  | _ => .error .malformed

end GraphLexer.Json
