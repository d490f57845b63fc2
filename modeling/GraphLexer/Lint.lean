/-
The linter tokenizes a text with a language and tells every place where that stops. After each stop it
passes over one character, or over the rest of the character it stopped in, and goes on from there, so
that one stray construct does not hide what comes after it.
-/
import GraphLexer.Language.Basic
import GraphLexer.Grammar.Node

namespace GraphLexer

/-- A place where tokenizing stops. -/
inductive Issue where
  /-- no state accepts the input at the offset -/
  | unparsed (offset : Nat) (remainder : String)
  /-- the attempt at the offset failed -/
  | failed (offset : Nat) (error : EvalError)
  deriving DecidableEq, Repr

namespace Issue

def offset : Issue → Nat
  | unparsed offset _ => offset
  | failed offset _ => offset

def message : Issue → String
  | unparsed _ remainder => "no token matches here: " ++ "\x60" ++ Text.escape remainder ++ "\x60"
  | failed _ error => error.kind.name ++ ": " ++ error.message

end Issue

namespace Lint

/-- The rest of a text after a stop at `matched` units: how many units are passed over, and what is
    left; nothing if the text ends there. -/
def resume (rest : List Char) (matched : Nat) : Option (Nat × List Char) :=
  let (units, bytes) := Text.boundaryFrom matched rest 0 0
  let left := Text.dropBytes bytes rest
  if units = matched then
    match left with
    | [] => none
    | c :: left => some (units + Text.charLength c, left)
  else some (units, left)

/-- The issues of what is left of a text after `offset` units, in at most `fuel` steps. -/
def issuesFrom (e : Evaluator) : Nat → Nat → List Char → Option (List Issue)
  | 0, _, _ => some []
  | _ + 1, _, [] => some []
  | fuel + 1, offset, rest =>
    match e.evaluateAll (String.ofList rest) with
    | none => none
    | some t =>
      match t.unmatchedSuffix with
      | none => some []
      | some remainder =>
        let place := offset + t.matchedLen
        let issue := match t.lastError with
          | some error => Issue.failed place error
          | none => Issue.unparsed place remainder
        match resume rest t.matchedLen with
        | none => some [issue]
        | some (units, left) => (issuesFrom e fuel (offset + units) left).map (issue :: ·)

/-- The issues of a text in a language. Each step passes over a character or more. -/
def check (l : Language) (input : String) : Option (List Issue) :=
  issuesFrom l.evaluator input.toList.length 0 input.toList

def checkPattern (pattern : String) : Option (List Issue) :=
  check .regex pattern

end Lint

end GraphLexer
