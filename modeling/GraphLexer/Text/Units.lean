/-
Text in UTF-16 units. Every position and length of this library counts UTF-16 units: a character of
the basic plane is one unit, any other character is a surrogate pair.

  * `units` and `length` give the units of a text and their number;
  * `decode` reads units back, a surrogate without its partner becoming U+FFFD;
  * `boundaryAt` finds the first character boundary at or after a unit offset, and `dropBytes` and
    `takeBytes` cut a text at byte offsets;
  * `view` is a text with one character for each unit. A unit of the basic plane is its own character,
    and the surrogates are stood for by U+10F800 to U+10FFFF. A supplementary character never enters the
    view as itself, so the stand-ins mean nothing else.

Patterns are matched on views. So a pattern sees one unit at a time, and may start between the two
halves of a pair; a supplementary character in a pattern is two characters of its view.
-/

namespace GraphLexer.Text

/-- The character that stands for text that could not be decoded. -/
def replacement : Char := '\uFFFD'

def charLength (c : Char) : Nat :=
  if c.toNat < 0x10000 then 1 else 2

def charUnits (c : Char) : List UInt16 :=
  if c.toNat < 0x10000 then
    [UInt16.ofNat c.toNat]
  else
    [UInt16.ofNat (0xD800 + (c.toNat - 0x10000) / 0x400),
      UInt16.ofNat (0xDC00 + (c.toNat - 0x10000) % 0x400)]

def units (s : String) : List UInt16 :=
  s.toList.flatMap charUnits

def charsLength (cs : List Char) : Nat :=
  cs.foldr (charLength · + ·) 0

def length (s : String) : Nat :=
  charsLength s.toList

def byteLength (cs : List Char) : Nat :=
  cs.foldr (Char.utf8Size · + ·) 0

def isHigh (u : UInt16) : Bool :=
  0xD800 ≤ u.toNat && u.toNat < 0xDC00

def isLow (u : UInt16) : Bool :=
  0xDC00 ≤ u.toNat && u.toNat < 0xE000

def pairChar (high low : UInt16) : Char :=
  Char.ofNat (0x10000 + (high.toNat - 0xD800) * 0x400 + (low.toNat - 0xDC00))

/-- The characters that units spell. A surrogate without its partner is U+FFFD, still one unit. -/
def decode : List UInt16 → List Char
  | [] => []
  | u :: rest =>
    if isHigh u then
      match rest with
      | [] => [replacement]
      | v :: rest' =>
        if isLow v then pairChar u v :: decode rest' else replacement :: decode (v :: rest')
    else if isLow u then replacement :: decode rest
    else Char.ofNat u.toNat :: decode rest

def ofUnits (us : List UInt16) : String :=
  String.ofList (decode us)

/-- `boundaryAt` on what follows `seen` units and `bytes` bytes. -/
def boundaryFrom (offset : Nat) : List Char → Nat → Nat → Nat × Nat
  | [], seen, bytes => (seen, bytes)
  | c :: cs, seen, bytes =>
    if offset ≤ seen then (seen, bytes)
    else boundaryFrom offset cs (seen + charLength c) (bytes + c.utf8Size)

/-- The first character boundary at or after a unit offset, in units and in bytes. An offset inside
    a pair goes to the end of its character, one past the end to the end of the text. -/
def boundaryAt (s : String) (offset : Nat) : Nat × Nat :=
  boundaryFrom offset s.toList 0 0

def byteOffset (s : String) (offset : Nat) : Nat :=
  (boundaryAt s offset).2

/-- What is left of a text after `n` bytes; a character that the cut falls into is dropped. -/
def dropBytes : Nat → List Char → List Char
  | _, [] => []
  | n, c :: cs => if n = 0 then c :: cs else dropBytes (n - c.utf8Size) cs

/-- The characters that start within the first `n` bytes of a text. -/
def takeBytes : Nat → List Char → List Char
  | _, [] => []
  | n, c :: cs => if n = 0 then [] else c :: takeBytes (n - c.utf8Size) cs

/-- The part of a text between two byte offsets. -/
def bytesBetween (s : String) (first last : Nat) : String :=
  String.ofList (takeBytes (last - first) (dropBytes first s.toList))

/-! ## Views -/

def viewChar (u : UInt16) : Char :=
  if isHigh u || isLow u then Char.ofNat (0x10F800 + (u.toNat - 0xD800)) else Char.ofNat u.toNat

def view (s : String) : List Char :=
  (units s).map viewChar

end GraphLexer.Text
