/-
The wire format: values as bytes, without names or types.

  * a natural number is written in base 128, the low digits first, each digit but the last one with
    its high bit set;
  * a text is its number of bytes and then its UTF-8, a list its length and then its items;
  * a truth value is one byte, and so is the presence of an optional value.

A reader takes the bytes that are left and gives a result and what is left after it.
-/
import GraphLexer.Text.Utf8

namespace GraphLexer.Wire

/-- What can be wrong with bytes. -/
inductive Fault where
  | endOfInput
  | badNumber
  | badBool
  | badOption
  | badText
  | unknownVariant
  deriving DecidableEq, Repr

def Fault.message : Fault → String
  | .endOfInput => "Hit the end of buffer, expected more data"
  | .badNumber => "Found a varint that didn't terminate. Is the usize too big for this platform?"
  | .badBool => "Found a bool that wasn't 0 or 1"
  | .badOption => "Found an Option discriminant that wasn't 0 or 1"
  | .badText => "Tried to parse invalid utf-8"
  | .unknownVariant => "Serde Deserialization Error"

/-- From the bytes that are left to a result and what is left after it. -/
abbrev Reader (α : Type) := List UInt8 → Except Fault (α × List UInt8)

/-! ## Writing -/

/-- The base-128 digits of a number that fits in `7 * count` bits. -/
def digits : Nat → Nat → List UInt8
  | 0, _ => []
  | count + 1, n =>
    if n < 128 then [UInt8.ofNat n] else UInt8.ofNat (128 + n % 128) :: digits count (n / 128)

def putWord (n : UInt32) : List UInt8 :=
  digits 5 n.toNat

def putLength (n : Nat) : List UInt8 :=
  digits 10 n

def putText (s : String) : List UInt8 :=
  let bytes := Text.utf8 s
  putLength bytes.length ++ bytes

def putBool (b : Bool) : List UInt8 :=
  [if b then 1 else 0]

def putOption {α : Type} (put : α → List UInt8) : Option α → List UInt8
  | none => [0]
  | some a => 1 :: put a

/-! ## Reading -/

def byte : Reader UInt8
  | [] => .error .endOfInput
  | b :: rest => .ok (b, rest)

/-- A number of at most `count` digits, the last of which, if all are used, is below `top`. -/
def number (top : Nat) : Nat → Reader Nat
  | 0, _ => .error .badNumber
  | count + 1, bytes => do
    let (b, rest) ← byte bytes
    if b.toNat < 128 then
      if count = 0 ∧ top ≤ b.toNat then .error .badNumber else .ok (b.toNat, rest)
    else do
      let (n, rest) ← number top count rest
      .ok (b.toNat % 128 + 128 * n, rest)

/-- A number of 32 bits: five digits, the fifth of four bits. -/
def word : Reader UInt32 :=
  fun bytes => do
    let (n, rest) ← number 16 5 bytes
    .ok (UInt32.ofNat n, rest)

/-- A length of 64 bits: ten digits, the tenth of one bit. -/
def length : Reader Nat :=
  number 2 10

def text : Reader String :=
  fun bytes => do
    let (n, rest) ← length bytes
    if rest.length < n then .error .endOfInput
    else
      match Text.ofUtf8? (rest.take n) with
      | some s => .ok (s, rest.drop n)
      | none => .error .badText

def bool : Reader Bool :=
  fun bytes => do
    let (b, rest) ← byte bytes
    if b = 0 then .ok (false, rest) else if b = 1 then .ok (true, rest) else .error .badBool

def option {α : Type} (value : Reader α) : Reader (Option α) :=
  fun bytes => do
    let (b, rest) ← byte bytes
    if b = 0 then .ok (none, rest)
    else if b = 1 then do
      let (a, rest) ← value rest
      .ok (some a, rest)
    else .error .badOption

def times {α : Type} (value : Reader α) : Nat → Reader (List α)
  | 0, bytes => .ok ([], bytes)
  | n + 1, bytes => do
    let (a, rest) ← value bytes
    let (as, rest) ← times value n rest
    .ok (a :: as, rest)

def list {α : Type} (value : Reader α) : Reader (List α) :=
  fun bytes => do
    let (n, rest) ← length bytes
    times value n rest

end GraphLexer.Wire
