/-
Passing over a JSON value that nobody asked for. The value has to be JSON, but it is read loosely:
arrays and objects may be nested to any depth, a number may be of any size, and the units of an
escape need not form a character.

The walk keeps the list of the arrays and objects that are open, innermost first.
-/
import GraphLexer.Json.Reader

namespace GraphLexer.Json

/-- An open array or object. -/
inductive Frame where
  | array
  | object
  deriving DecidableEq, Repr

def Frame.closing : Frame → Char
  | .array => ']'
  | .object => '\x7d'

/-- What the walk expects next. -/
inductive Expect where
  /-- a value -/
  | value
  /-- the key of a member, or of the first member -/
  | key
  /-- the end of the innermost frame, or its first item -/
  | first
  /-- the end of the innermost frame, or a comma -/
  | next
  deriving DecidableEq, Repr

def Frame.item : Frame → Expect
  | .array => .value
  | .object => .key

/-- Passes over a string after its opening quote, in at most `fuel` steps. -/
def skipStringUpTo : Nat → List Char → Except Fault (List Char)
  | 0, _ => .error .malformed
  | _, [] => .error .cutShort
  | fuel + 1, c :: cs =>
    if c = '"' then .ok cs
    else if c = '\\' then
      match cs with
      | [] => .error .cutShort
      | e :: rest =>
        if e = 'u' then
          match hex4 rest with
          | .ok (_, rest) => skipStringUpTo fuel rest
          | .error fault => .error fault
        else if (escapeLetter? e).isSome then skipStringUpTo fuel rest
        else .error .malformed
    else if c.toNat < 0x20 then .error .malformed
    else skipStringUpTo fuel cs

/-- Passes over a string, after its opening quote. -/
def skipString (cs : List Char) : Except Fault (List Char) :=
  skipStringUpTo (cs.length + 1) cs

def skipScalar (cs : List Char) : Except Fault (List Char) :=
  match cs with
  | [] => .error .cutShort
  | c :: rest =>
    if c = 'n' then (word "ull".toList rest).map (·.2)
    else if c = 't' then (word "rue".toList rest).map (·.2)
    else if c = 'f' then (word "alse".toList rest).map (·.2)
    else if c = '"' then skipString rest
    else if c = '-' then (decimal .malformed rest).map (·.2)
    else if c.isDigit then (decimal .malformed (c :: rest)).map (·.2)
    else .error .malformed

def skipUpTo : Nat → Expect → List Frame → List Char → Except Fault (List Char)
  | 0, _, _, _ => .error .malformed
  | fuel + 1, expect, open_, cs =>
    match expect, open_ with
    | .value, _ =>
      match skipBlank cs with
      | [] => .error .cutShort
      | c :: rest =>
        if c = '[' then skipUpTo fuel .first (.array :: open_) rest
        else if c = '\x7b' then skipUpTo fuel .first (.object :: open_) rest
        else do
          let rest ← skipScalar (c :: rest)
          skipUpTo fuel .next open_ rest
    | .key, _ =>
      match skipBlank cs with
      | [] => .error .cutShort
      | c :: rest =>
        if c = '"' then do
          let rest ← skipString rest
          let (_, rest) ← colon rest
          skipUpTo fuel .value open_ rest
        else .error .malformed
    | _, [] => .ok cs
    | .first, frame :: below =>
      match skipBlank cs with
      | [] => .error .cutShort
      | c :: rest =>
        if c = frame.closing then skipUpTo fuel .next below rest
        else skipUpTo fuel frame.item open_ (c :: rest)
    | .next, frame :: below =>
      match skipBlank cs with
      | [] => .error .cutShort
      | c :: rest =>
        if c = ',' then skipUpTo fuel frame.item open_ rest
        else if c = frame.closing then skipUpTo fuel .next below rest
        else .error .malformed

/-- Passes over a value. Each character is met in at most two steps. -/
def skip (cs : List Char) : Except Fault (List Char) :=
  skipUpTo (2 * cs.length + 2) .value [] cs

end GraphLexer.Json
