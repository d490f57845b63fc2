/-
Grammars as JSON documents: an object with the root's name and the array of states, in which each
node is a flat object with its kind, the fields of that kind and its transitions.

What a writer leaves out, a reader puts back: `commit` unless set, `transitions` unless there are
any, an absent bound, and the repetition "once". A repetition that is written leaves out only an
absent upper bound, while a reader takes absent fields as "not greedy", 0 and unbounded.

A reader ignores fields it does not know. The fields of a node other than `commit` and `transitions`
are read as plain values and judged where the object ends, so a fault of the text on the way there
comes first.
-/
import GraphLexer.Grammar.Basic
import GraphLexer.Json.Skip

namespace GraphLexer

open Json (Value Fault Reader)

/-! ## Writing -/

/-- The member of an absent or present bound. -/
def boundMember (key : String) : Option UInt32 → List (String × Value)
  | none => []
  | some n => [(key, .nat n.toNat)]

def Repetition.toJson (r : Repetition) : Value :=
  .object ([("greedy", .bool r.greedy), ("min", .nat r.min.toNat)] ++ boundMember "max" r.max)

def Node.members : Node → List (String × Value)
  | state name => [("kind", .string "State"), ("name", .string name)]
  | literal text => [("kind", .string "MatchLiteral"), ("text", .string text)]
  | unicode min max =>
    ("kind", .string "MatchUnicode") :: boundMember "min" min ++ boundMember "max" max
  | regex pattern => [("kind", .string "MatchRegex"), ("pattern", .string pattern)]
  | subState target repetition =>
    [("kind", .string "SubState"), ("state", .string target)]
      ++ if repetition = .once then [] else [("repetition", repetition.toJson)]
  | applyTag tag => [("kind", .string "ApplyTag"), ("tag", .string tag)]

namespace Tree

mutual

def toJson : Tree → Value
  | ⟨commit, node, transitions⟩ =>
    .object ((if commit then [("commit", .bool true)] else []) ++ node.members
      ++ match transitions with
        | [] => []
        | t :: ts => [("transitions", .array (t.toJson :: listJson ts))])

def listJson : List Tree → List Value
  | [] => []
  | t :: ts => t.toJson :: listJson ts

end

end Tree

def Grammar.toValue (g : Grammar) : Value :=
  .object [("root", .string g.root), ("states", .array (Tree.listJson g.states))]

def Grammar.toJson (g : Grammar) : String :=
  String.ofList (Json.pretty 0 g.toValue)

/-! ## The fields of a node -/

/-- The value of a field, if it is there. No field is there twice. -/
def field? (members : List (String × Value)) (key : String) : Except Fault (Option Value) :=
  match members.filter (·.1 == key) with
  | [] => .ok none
  | [(_, v)] => .ok (some v)
  | _ => .error .misshapen

def textField (members : List (String × Value)) (key : String) : Except Fault String := do
  match ← field? members key with
  | some (.string s) => .ok s
  | _ => .error .misshapen

/-- The bound that a value holds: a natural number of 32 bits, spelt in digits alone. -/
def boundOf : Value → Except Fault UInt32
  | .number spelling =>
    match Json.natural? spelling with
    | some n => if n < UInt32.size then .ok (UInt32.ofNat n) else .error .misshapen
    | none => .error .misshapen
  | _ => .error .misshapen

def optionalBoundOf : Option Value → Except Fault (Option UInt32)
  | none => .ok none
  | some .null => .ok none
  | some v => (boundOf v).map some

/-- The truth value of an absent or present value. -/
def flagOf : Option Value → Except Fault Bool
  | none => .ok false
  | some (.bool b) => .ok b
  | some _ => .error .misshapen

def leastOf : Option Value → Except Fault UInt32
  | none => .ok 0
  | some v => boundOf v

def Repetition.ofFields (greedy min max : Option Value) : Except Fault Repetition := do
  .ok ⟨← flagOf greedy, ← leastOf min, ← optionalBoundOf max⟩

/-- The repetition that a value holds: an object, or an array of its fields with the last ones left
    out. -/
def Repetition.ofValue : Option Value → Except Fault Repetition
  | none => .ok once
  | some .null => .ok once
  | some (.object members) => do
    ofFields (← field? members "greedy") (← field? members "min") (← field? members "max")
  | some (.array []) => ofFields none none none
  | some (.array [greedy]) => ofFields (some greedy) none none
  | some (.array [greedy, min]) => ofFields (some greedy) (some min) none
  | some (.array [greedy, min, max]) => ofFields (some greedy) (some min) (some max)
  | some _ => .error .misshapen

/-- The names of the kinds, in order. A kind may also be given by its position. -/
def Node.kindNames : List String :=
  ["State", "MatchLiteral", "MatchUnicode", "MatchRegex", "SubState", "ApplyTag"]

/-- The position of the kind that a value names. -/
def Node.kindOf : Option Value → Except Fault Nat
  | some (.string s) =>
    match kindNames.idxOf? s with
    | some i => .ok i
    | none => .error .misshapen
  | some (.number spelling) =>
    match Json.natural? spelling with
    | some n => if n < kindNames.length then .ok n else .error .misshapen
    | none => .error .misshapen
  | _ => .error .misshapen

def Node.ofMembers (members : List (String × Value)) : Except Fault Node := do
  match ← kindOf (← field? members "kind") with
  | 0 => return state (← textField members "name")
  | 1 => return literal (← textField members "text")
  | 2 =>
    return unicode (← optionalBoundOf (← field? members "min"))
      (← optionalBoundOf (← field? members "max"))
  | 3 => return regex (← textField members "pattern")
  | 4 =>
    return subState (← textField members "state")
      (← Repetition.ofValue (← field? members "repetition"))
  | _ => return applyTag (← textField members "tag")

/-! ## Reading -/

namespace Tree

/-- What has been read of a node. -/
structure Draft where
  commit : Option Bool
  transitions : Option (List Tree)
  members : List (String × Value)

def draftMember (value : Reader Value) (transitions : Reader (List Tree)) (d : Draft) (key : String) :
    Reader Draft :=
  fun cs =>
    if key = "commit" then
      if d.commit.isSome then .error .misshapen
      else do
        let (_, rest) ← Json.colon cs
        let (b, rest) ← Json.boolValue rest
        .ok ({ d with commit := some b }, rest)
    else if key = "transitions" then
      if d.transitions.isSome then .error .misshapen
      else do
        let (_, rest) ← Json.colon cs
        let (ts, rest) ← transitions rest
        .ok ({ d with transitions := some ts }, rest)
    else do
      let (members, rest) ← Json.member value d.members key cs
      .ok ({ d with members := members }, rest)

/-- Reads what is inside the object of a node. -/
def body (value : Reader Value) (transitions : Reader (List Tree)) : Reader Tree :=
  fun cs => do
    let (d, rest) ← Json.entries (draftMember value transitions) ⟨none, none, []⟩ cs
    let node ← Node.ofMembers d.members
    .ok (⟨d.commit.getD false, node, d.transitions.getD []⟩, rest)

/-- Reads a tree in which `levels` arrays and objects may be open at once. -/
def ofJson : Nat → Reader Tree
  | 0 => Json.objectValue Json.tooDeep
  | 1 => Json.objectValue (body (Json.value 0) (Json.arrayValue Json.tooDeep))
  | levels + 2 =>
    Json.objectValue
      (body (Json.value (levels + 1)) (Json.arrayValue (Json.items (ofJson levels))))

end Tree

namespace Grammar

/-- What has been read of a document. -/
structure Draft where
  root : Option String
  states : Option (List Tree)

def statesValue : Reader (List Tree) :=
  Json.arrayValue (Json.items (Tree.ofJson (Json.maxDepth - 2)))

/-- Reads a member of a document, after its key. -/
def draftMember (d : Draft) (key : String) : Reader Draft :=
  fun cs =>
    if key = "root" then
      if d.root.isSome then .error .misshapen
      else do
        let (_, rest) ← Json.colon cs
        let (root, rest) ← Json.stringValue rest
        .ok ({ d with root := some root }, rest)
    else if key = "states" then
      if d.states.isSome then .error .misshapen
      else do
        let (_, rest) ← Json.colon cs
        let (states, rest) ← statesValue rest
        .ok ({ d with states := some states }, rest)
    else do
      let (_, rest) ← Json.colon cs
      let rest ← Json.skip rest
      .ok (d, rest)

/-- Reads a document that is an object, after its brace. -/
def objectBody : Reader (String × List Tree) :=
  fun cs => do
    let (d, rest) ← Json.entries draftMember ⟨none, none⟩ cs
    match d.root, d.states with
    | some root, some states => .ok ((root, states), rest)
    | _, _ => .error .misshapen

/-- Refuses the end of an array where an item is due. -/
def expectItem (cs : List Char) : Except Fault (List Char) :=
  match Json.skipBlank cs with
  | [] => .error .cutShort
  | c :: rest => if c = ']' then .error .misshapen else .ok (c :: rest)

/-- Reads a document that is an array of the root's name and the states, after its bracket. -/
def arrayBody : Reader (String × List Tree) :=
  fun cs => do
    let (root, rest) ← Json.stringValue (← expectItem cs)
    let rest ← expectItem rest
    match rest with
    | ',' :: rest =>
      match Json.skipBlank rest with
      | ']' :: _ => .error .malformed
      | rest => do
        let (states, rest) ← statesValue rest
        match Json.skipBlank rest with
        | [] => .error .cutShort
        | c :: rest => if c = ']' then .ok ((root, states), rest) else .error .malformed
    | _ => .error .malformed

/-- The root's name and the trees of a document. -/
def readDocument (cs : List Char) : Except Fault (String × List Tree) := do
  let (document, rest) ←
    match Json.skipBlank cs with
    | '\x7b' :: rest => objectBody rest
    | '[' :: rest => arrayBody rest
    | cs => Json.refuse cs
  Json.finish rest
  .ok document

def ofJson (text : String) : Except GrammarError Grammar :=
  match readDocument text.toList with
  | .error fault => .error (.json fault)
  | .ok (root, states) => ofStates root states

end Grammar

end GraphLexer
