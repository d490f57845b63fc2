/-
Grammar files. A file holds a grammar as a JSON document if its name ends in `.json` or its content
begins with an opening brace, and in the binary form otherwise.

The first byte of the binary form is the length of the root's name. It is a brace for a name of 123
bytes, and a blank for some short ones, so such a grammar is read as a document although it is none.
-/
import GraphLexer.Grammar.Binary
import GraphLexer.Grammar.Document
import GraphLexer.Text.Utf8

namespace GraphLexer

/-! ## Names of files -/

/-- The parts of a path between slashes, without those that stay where they are. -/
def pathParts (path : String) : List (List Char) :=
  (path.toList.splitOnP (· == '/')).filter fun part => part ≠ [] ∧ part ≠ ['.']

/-- The last part of a path, unless it leads upwards. -/
def fileName? (path : String) : Option (List Char) :=
  match (pathParts path).getLast? with
  | some part => if part = ['.', '.'] then none else some part
  | none => none

/-- What follows the last dot of a file's name. A dot at the start does not count. -/
def extension? (path : String) : Option String :=
  match fileName? path with
  | none => none
  | some name =>
    let ending := name.reverse.takeWhile (· != '.')
    if ending.length + 1 < name.length then some (String.ofList ending.reverse) else none

/-! ## Content -/

/-- The bytes that count as blank before the content of a file. -/
def isBlankByte (b : UInt8) : Bool :=
  b == 0x20 || b == 0x09 || b == 0x0a || b == 0x0c || b == 0x0d

/-- Whether the first byte that is not blank is an opening brace. -/
def startsWithBrace (bytes : List UInt8) : Bool :=
  (bytes.dropWhile isBlankByte).head? == some 0x7b

namespace Grammar

/-- Whether a file is read as a JSON document. -/
def isDocument (path : String) (bytes : List UInt8) : Bool :=
  extension? path == some "json" || startsWithBrace bytes

def ofFile (path : String) (bytes : List UInt8) : Except GrammarError Grammar :=
  if isDocument path bytes then ofJson (Text.decodeLossy bytes) else ofBinary bytes

end Grammar

end GraphLexer
