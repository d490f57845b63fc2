/-
Grammars in the binary form: the root's name and the list of states, in the wire format. A tree is its
commit flag, its node and its transitions; a node is the number of its kind and then its fields.

Reading ends with the last state: bytes after it are ignored.
-/
import GraphLexer.Grammar.Basic

namespace GraphLexer

namespace Repetition

def toBytes (r : Repetition) : List UInt8 :=
  Wire.putBool r.greedy ++ Wire.putWord r.min ++ Wire.putOption Wire.putWord r.max

def ofBytes : Wire.Reader Repetition :=
  fun bytes => do
    let (greedy, rest) ← Wire.bool bytes
    let (min, rest) ← Wire.word rest
    let (max, rest) ← Wire.option Wire.word rest
    .ok (⟨greedy, min, max⟩, rest)

end Repetition

namespace Node

def toBytes : Node → List UInt8
  | state name => Wire.putWord 0 ++ Wire.putText name
  | literal text => Wire.putWord 1 ++ Wire.putText text
  | unicode min max =>
    Wire.putWord 2 ++ Wire.putOption Wire.putWord min ++ Wire.putOption Wire.putWord max
  | regex pattern => Wire.putWord 3 ++ Wire.putText pattern
  | subState target repetition => Wire.putWord 4 ++ Wire.putText target ++ repetition.toBytes
  | applyTag tag => Wire.putWord 5 ++ Wire.putText tag

def ofBytes : Wire.Reader Node :=
  fun bytes => do
    let (kind, rest) ← Wire.word bytes
    match kind.toNat with
    | 0 => (Wire.text rest).map fun (name, left) => (state name, left)
    | 1 => (Wire.text rest).map fun (text, left) => (literal text, left)
    | 2 => do
      let (min, rest) ← Wire.option Wire.word rest
      let (max, rest) ← Wire.option Wire.word rest
      .ok (unicode min max, rest)
    | 3 => (Wire.text rest).map fun (pattern, left) => (regex pattern, left)
    | 4 => do
      let (target, rest) ← Wire.text rest
      let (repetition, rest) ← Repetition.ofBytes rest
      .ok (subState target repetition, rest)
    | 5 => (Wire.text rest).map fun (tag, left) => (applyTag tag, left)
    | _ => .error .unknownVariant

end Node

namespace Tree

mutual

def toBytes : Tree → List UInt8
  | ⟨commit, node, transitions⟩ =>
    Wire.putBool commit ++ node.toBytes ++ Wire.putLength transitions.length ++ listBytes transitions

/-- The trees of a list, one after the other. -/
def listBytes : List Tree → List UInt8
  | [] => []
  | t :: ts => t.toBytes ++ listBytes ts

end

/-- A tree from bytes, nested less than `depth` levels. -/
def ofBytes : Nat → Wire.Reader Tree
  | 0, _ => .error .endOfInput
  | depth + 1, bytes => do
    let (commit, rest) ← Wire.bool bytes
    let (node, rest) ← Node.ofBytes rest
    let (transitions, rest) ← Wire.list (ofBytes depth) rest
    .ok (⟨commit, node, transitions⟩, rest)

end Tree

namespace Grammar

def toBinary (g : Grammar) : List UInt8 :=
  Wire.putText g.root ++ Wire.putLength g.states.length ++ Tree.listBytes g.states

/-- The root's name and the trees that bytes hold. Each level of a tree takes bytes of its own, so
    there are no more levels than bytes. -/
def readBinary (bytes : List UInt8) : Except Wire.Fault (String × List Tree) := do
  let (root, rest) ← Wire.text bytes
  let (states, _) ← Wire.list (Tree.ofBytes (bytes.length + 1)) rest
  .ok (root, states)

def ofBinary (bytes : List UInt8) : Except GrammarError Grammar :=
  match readBinary bytes with
  | .error fault => .error (.binary fault)
  | .ok (root, states) => ofStates root states

end Grammar

end GraphLexer
