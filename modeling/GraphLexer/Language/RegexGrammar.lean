/-
The bundled grammar of regular expressions: it names the parts of a pattern, and takes every character
that is no part of anything else as a literal.
-/
import GraphLexer.Grammar.Basic

namespace GraphLexer.Language

open GraphLexer.Tree

def regexStates : List Tree := [
  plain (.state "BoundaryAssertion") [
    plain (.applyTag "InputBegin") [
      committed (.literal "^") []],
    plain (.applyTag "InputEnd") [
      committed (.literal "$") []],
    plain (.applyTag "WordBoundary") [
      committed (.literal "\\b") []],
    plain (.applyTag "NonWordBoundary") [
      committed (.literal "\\B") []]],
  plain (.state "EscapeChar") [
    plain (.applyTag "BackRef") [
      committed (.regex "\\\\[1-9][0-9]*") []],
    plain (.applyTag "BackRefNamed") [
      committed (.regex "\\\\k<.*?>") []],
    plain (.applyTag "ControlChar") [
      committed (.regex "\\\\c[A-Z]") []],
    plain (.applyTag "Hex") [
      committed (.regex "\\\\x[0-9a-fA-F]\x7b2\x7d") []],
    plain (.applyTag "Utf16") [
      committed (.regex "\\\\u[0-9a-fA-F]\x7b4\x7d") []],
    plain (.applyTag "Unicode") [
      committed (.regex "\\\\u\\\x7b[0-9a-fA-F]\x7b4,5\x7d\\\x7d") []],
    plain (.applyTag "UnicodeProperty") [
      committed (.regex "\\\\[pP]\\\x7b.*?\\\x7d") []],
    plain (.applyTag "EscapeChar") [
      committed (.regex "\\\\.") []]],
  plain (.state "CharacterClassChar") [
    committed (.subState "EscapeChar" .once) [],
    plain (.applyTag "Literal") [
      committed (.regex "[^\\]]") []]],
  plain (.state "CharacterClassRange") [
    plain (.applyTag "CharRange") [
      plain (.subState "CharacterClassChar" .once) [
        plain (.literal "-") [
          committed (.subState "CharacterClassChar" .once) []]]]],
  plain (.state "CharacterClassContent") [
    committed (.subState "CharacterClassRange" .once) [],
    committed (.subState "CharacterClassChar" .once) []],
  plain (.state "CharacterClass") [
    plain (.applyTag "NegatedCharacterClass") [
      committed (.literal "[^") [
        committed (.subState "CharacterClassContent" (.zeroOrMore true)) [
          committed (.literal "]") []]]],
    plain (.applyTag "CharacterClass") [
      committed (.literal "[") [
        committed (.subState "CharacterClassContent" (.zeroOrMore true)) [
          committed (.literal "]") []]]]],
  plain (.state "Lookaround") [
    plain (.applyTag "Lookahead") [
      committed (.literal "(?=") [
        committed (.subState "Regex" (.zeroOrMore false)) [
          committed (.literal ")") []]]],
    plain (.applyTag "NegativeLookahead") [
      committed (.literal "(?!") [
        committed (.subState "Regex" (.zeroOrMore false)) [
          committed (.literal ")") []]]],
    plain (.applyTag "Lookbehind") [
      committed (.literal "(?<=") [
        committed (.subState "Regex" (.zeroOrMore false)) [
          committed (.literal ")") []]]],
    plain (.applyTag "NegativeLookbehind") [
      committed (.literal "(?<!") [
        committed (.subState "Regex" (.zeroOrMore false)) [
          committed (.literal ")") []]]]],
  plain (.state "Flags") [
    plain (.applyTag "Flags") [
      committed (.regex "[ims]*") []]],
  plain (.state "GroupName") [
    plain (.applyTag "Name") [
      committed (.regex "[^>]*") []]],
  plain (.state "GroupType") [
    plain (.applyTag "TypeNonCapturing") [
      committed (.literal "?:") []],
    plain (.applyTag "TypeNamed") [
      committed (.literal "?<") [
        committed (.subState "GroupName" .once) [
          committed (.literal ">") []]]],
    plain (.applyTag "TypeFlagged") [
      committed (.literal "?") [
        committed (.subState "Flags" .once) [
          committed (.literal "-") [
            committed (.subState "Flags" .once) [
              committed (.literal ":") []]],
          committed (.literal ":") []]]]],
  plain (.state "CaptureGroup") [
    plain (.applyTag "CaptureGroup") [
      committed (.literal "(") [
        committed (.subState "GroupType" (.optional true)) [
          committed (.subState "Regex" (.zeroOrMore false)) [
            committed (.literal ")") []]]]]],
  plain (.state "Integer") [
    plain (.applyTag "Int") [
      committed (.regex "[0-9]+") []]],
  plain (.state "QuantifierType") [
    plain (.applyTag "Type") [
      committed (.regex "[*+?]") []],
    plain (.applyTag "Type\x7bn\x7d") [
      plain (.literal "\x7b") [
        plain (.subState "Integer" .once) [
          committed (.literal "\x7d") []]]],
    plain (.applyTag "Type\x7bn,\x7d") [
      plain (.literal "\x7b") [
        plain (.subState "Integer" .once) [
          committed (.literal ",\x7d") []]]],
    plain (.applyTag "Type\x7bn,m\x7d") [
      plain (.literal "\x7b") [
        plain (.subState "Integer" .once) [
          plain (.literal ",") [
            plain (.subState "Integer" .once) [
              committed (.literal "\x7d") []]]]]]],
  plain (.state "Quantifier") [
    plain (.applyTag "Quantifier") [
      committed (.subState "QuantifierType" .once) [
        plain (.applyTag "NonGreedy") [
          committed (.literal "?") []],
        committed (.literal "") []]]],
  plain (.state "Literal") [
    plain (.applyTag "Literal") [
      committed (.regex ".") []]],
  plain (.state "Wildcard") [
    plain (.applyTag "Wildcard") [
      committed (.literal ".") []]],
  plain (.state "Regex") [
    committed (.subState "CharacterClass" .once) [
      committed (.subState "Quantifier" (.optional true)) []],
    committed (.subState "Lookaround" .once) [
      committed (.subState "Quantifier" (.optional true)) []],
    committed (.subState "CaptureGroup" .once) [
      committed (.subState "Quantifier" (.optional true)) []],
    plain (.applyTag "Disjunction") [
      committed (.literal "|") []],
    plain (.subState "Wildcard" .once) [
      committed (.subState "Quantifier" (.optional true)) []],
    committed (.subState "BoundaryAssertion" .once) [],
    committed (.subState "EscapeChar" .once) [
      committed (.subState "Quantifier" (.optional true)) []],
    committed (.subState "Literal" .once) [
      committed (.subState "Quantifier" (.optional true)) []]]]

def regexGrammar : Grammar :=
  ⟨"Regex", regexStates, by decide, by decide⟩

end GraphLexer.Language
