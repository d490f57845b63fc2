/-
The outcome of all attempts as a JSON document.
-/
import GraphLexer.Evaluator
import GraphLexer.Json.Value

namespace GraphLexer

open Json (Value)

namespace Tag

mutual

def toJson : Tag String → Value
  | ⟨name, index, len, subTags⟩ =>
    .object [("name", .string name), ("index", .nat index), ("len", .nat len),
      ("sub_tags", .array (listJson subTags))]

def listJson : List (Tag String) → List Value
  | [] => []
  | t :: ts => t.toJson :: listJson ts

end

end Tag

def EvalError.toJson (e : EvalError) : Value :=
  .object [("kind", .string e.kind.name), ("message", .string e.message),
    ("tag_stack", .array (e.tagStack.map .string)), ("state_stack", .array (e.stateStack.map .string)),
    ("committed_input", .string e.committedInput)]

/-- The value of something that may be missing. -/
def Json.Value.orNull : Option Value → Value
  | some v => v
  | none => .null

def Tokenized.toJson (t : Tokenized) : Value :=
  .object [("matched_len", .nat t.matchedLen), ("tags", .array (Tag.listJson t.tags)),
    ("unmatched_suffix", .orNull (t.unmatchedSuffix.map .string)),
    ("last_error", .orNull (t.lastError.map EvalError.toJson))]

end GraphLexer
