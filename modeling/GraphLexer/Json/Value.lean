/-
JSON values and their two written forms.

  * `compact` writes no space at all;
  * `pretty` puts each item of an array and each member of an object on a line of its own, indented
    by two spaces for each level, an empty array or object staying closed.

A number is kept as it is spelt; `natural?` reads the spelling of a natural number.
-/

namespace GraphLexer.Json

/-- A JSON value. The members of an object are in the order in which they are written. -/
inductive Value where
  | null
  | bool (b : Bool)
  | number (spelling : List Char)
  | string (s : String)
  | array (items : List Value)
  | object (members : List (String × Value))
  deriving Repr, BEq

def Value.nat (n : Nat) : Value :=
  .number (toString n).toList

/-- The natural number of a spelling in decimal digits. -/
def natural? (spelling : List Char) : Option Nat :=
  if spelling ≠ [] ∧ spelling.all Char.isDigit then
    some (spelling.foldl (fun n c => 10 * n + (c.toNat - '0'.toNat)) 0)
  else none

def hexDigit (n : Nat) : Char :=
  if n < 10 then Char.ofNat ('0'.toNat + n) else Char.ofNat ('a'.toNat + (n - 10))

def quoteChar (c : Char) : List Char :=
  if c = '"' then ['\\', '"']
  else if c = '\\' then ['\\', '\\']
  else if c = '\n' then ['\\', 'n']
  else if c = '\r' then ['\\', 'r']
  else if c = '\t' then ['\\', 't']
  else if c = '\x08' then ['\\', 'b']
  else if c = '\x0c' then ['\\', 'f']
  else if c.toNat < 0x20 then ['\\', 'u', '0', '0', hexDigit (c.toNat / 16), hexDigit (c.toNat % 16)]
  else [c]

def quote (s : String) : List Char :=
  '"' :: s.toList.flatMap quoteChar ++ ['"']

/-- A line break and the indentation after it. -/
def lineBreak (depth : Nat) : List Char :=
  '\n' :: List.replicate (2 * depth) ' '

mutual

def compact : Value → List Char
  | .null => "null".toList
  | .bool b => (if b then "true" else "false").toList
  | .number spelling => spelling
  | .string s => quote s
  | .array [] => ['[', ']']
  | .array (v :: vs) => '[' :: compact v ++ compactItems vs
  | .object [] => ['\x7b', '\x7d']
  | .object ((key, v) :: ms) => '\x7b' :: quote key ++ ':' :: compact v ++ compactMembers ms

/-- The items after the first one, and the end of the array. -/
def compactItems : List Value → List Char
  | [] => [']']
  | v :: vs => ',' :: compact v ++ compactItems vs

/-- The members after the first one, and the end of the object. -/
def compactMembers : List (String × Value) → List Char
  | [] => ['\x7d']
  | (key, v) :: ms => ',' :: quote key ++ ':' :: compact v ++ compactMembers ms

end

mutual

def pretty (depth : Nat) : Value → List Char
  | .null => "null".toList
  | .bool b => (if b then "true" else "false").toList
  | .number spelling => spelling
  | .string s => quote s
  | .array [] => ['[', ']']
  | .array (v :: vs) => '[' :: lineBreak (depth + 1) ++ pretty (depth + 1) v ++ prettyItems depth vs
  | .object [] => ['\x7b', '\x7d']
  | .object ((key, v) :: ms) =>
    '\x7b' :: lineBreak (depth + 1) ++ quote key ++ ':' :: ' ' :: pretty (depth + 1) v
      ++ prettyMembers depth ms

/-- The items after the first one, and the end of the array. -/
def prettyItems (depth : Nat) : List Value → List Char
  | [] => lineBreak depth ++ [']']
  | v :: vs => ',' :: lineBreak (depth + 1) ++ pretty (depth + 1) v ++ prettyItems depth vs

/-- The members after the first one, and the end of the object. -/
def prettyMembers (depth : Nat) : List (String × Value) → List Char
  | [] => lineBreak depth ++ ['\x7d']
  | (key, v) :: ms =>
    ',' :: lineBreak (depth + 1) ++ quote key ++ ':' :: ' ' :: pretty (depth + 1) v
      ++ prettyMembers depth ms

end

end GraphLexer.Json
