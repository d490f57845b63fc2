/-
Texts as UTF-8 bytes. `decodeLossy` reads any bytes: each longest run of bytes that begins a
character but does not finish it, and each byte that begins none, becomes one U+FFFD.
-/
import GraphLexer.Text.Units

namespace GraphLexer.Text

def utf8 (s : String) : List UInt8 :=
  s.toByteArray.toList

/-- The text that bytes spell, if they are UTF-8. -/
def ofUtf8? (bytes : List UInt8) : Option String :=
  String.fromUTF8? ⟨bytes.toArray⟩

def isTail (b : UInt8) : Bool :=
  0x80 ≤ b.toNat && b.toNat ≤ 0xBF

/-- What the first byte of a character asks of the bytes after it: their number, and the least and
    the greatest that the first of them may be. -/
def tailShape (b : UInt8) : Option (Nat × Nat × Nat) :=
  let n := b.toNat
  if n < 0x80 then some (0, 0x80, 0xBF)
  else if n < 0xC2 then none
  else if n < 0xE0 then some (1, 0x80, 0xBF)
  else if n = 0xE0 then some (2, 0xA0, 0xBF)
  else if n = 0xED then some (2, 0x80, 0x9F)
  else if n < 0xF0 then some (2, 0x80, 0xBF)
  else if n = 0xF0 then some (3, 0x90, 0xBF)
  else if n < 0xF4 then some (3, 0x80, 0xBF)
  else if n = 0xF4 then some (3, 0x80, 0x8F)
  else none

/-- The bytes of `bytes` that may follow a first byte of the given shape, as far as they do. -/
def tails (count low high : Nat) (bytes : List UInt8) : List UInt8 :=
  match bytes with
  | [] => []
  | b :: rest =>
    if count = 0 || b.toNat < low || high < b.toNat then []
    else b :: (rest.take (count - 1)).takeWhile isTail

/-- The code point of a first byte and its tails. -/
def codePoint (first : UInt8) : List UInt8 → Nat
  | [] => first.toNat
  | [a] => (first.toNat % 0x20) * 0x40 + a.toNat % 0x40
  | [a, b] => (first.toNat % 0x10) * 0x1000 + (a.toNat % 0x40) * 0x40 + b.toNat % 0x40
  | a :: b :: c :: _ =>
    (first.toNat % 8) * 0x40000 + (a.toNat % 0x40) * 0x1000 + (b.toNat % 0x40) * 0x40 + c.toNat % 0x40

/-- Reads bytes character by character, at most `fuel` times. -/
def repair : Nat → List UInt8 → List Char
  | 0, _ => []
  | _, [] => []
  | fuel + 1, b :: rest =>
    match tailShape b with
    | none => replacement :: repair fuel rest
    | some (count, low, high) =>
      let found := tails count low high rest
      let c := if found.length = count then Char.ofNat (codePoint b found) else replacement
      c :: repair fuel (rest.drop found.length)

/-- The text that bytes spell, each fault becoming U+FFFD. -/
def decodeLossy (bytes : List UInt8) : String :=
  match ofUtf8? bytes with
  | some s => s
  | none => String.ofList (repair bytes.length bytes)

end GraphLexer.Text
