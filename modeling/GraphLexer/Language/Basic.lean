/-
The languages that come with the program: bundled grammars under names and aliases.
-/
import GraphLexer.Evaluator
import GraphLexer.Graph.Lower
import GraphLexer.Language.AyaGrammar
import GraphLexer.Language.RegexGrammar

namespace GraphLexer

/-- A bundled grammar. The aliases include the name itself. -/
structure Language where
  name : String
  aliases : List String
  grammar : Grammar

namespace Language

def regex : Language :=
  ⟨"regex", ["regex", "re"], regexGrammar⟩

def aya : Language :=
  ⟨"aya", ["aya"], ayaGrammar⟩

def all : List Language :=
  [regex, aya]

/-- The language of a name or alias, in upper or lower case. -/
def find? (name : String) : Option Language :=
  let name := String.ofList (name.toList.map Char.toLower)
  all.find? fun l => l.aliases.contains name

def graph (l : Language) : Graph :=
  match Graph.ofGrammar l.grammar with
  | .ok g => g
  | .error _ => .empty

/-- Evaluation from the root of a language with the usual limits. -/
def evaluator (l : Language) : Evaluator :=
  .ofGraph l.graph

def tokenize (l : Language) (input : String) : Option Tokenized :=
  l.evaluator.evaluateAll input

/-- The list of languages as the program prints it. -/
def listing : String :=
  let line (l : Language) : String :=
    match l.aliases.filter (· != l.name) with
    | [] => "  " ++ l.name ++ "\n"
    | others => "  " ++ l.name ++ " (" ++ ", ".intercalate others ++ ")\n"
  "Bundled grammars (" ++ toString all.length ++ "):\n" ++ String.join (all.map line)

end Language

end GraphLexer
