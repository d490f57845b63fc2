/-
The bundled grammar of the stack language aya: numbers, strings, blocks, operators and variables,
with blanks between them.
-/
import GraphLexer.Grammar.Basic

namespace GraphLexer.Language

open GraphLexer.Tree

def ayaStates : List Tree := [
  plain (.state "Variable") [
    plain (.applyTag "Variable") [
      committed (.regex "[a-z_]+") [],
      committed (.subState "String" .once) [],
      committed (.unicode (some 127) none) []]],
  plain (.state "List") [
    plain (.applyTag "List") [
      committed (.literal "[") [
        plain (.regex "\\s*") [
          committed (.subState "Token_space" (.zeroOrMore false)) [
            committed (.literal "]") []]]]]],
  plain (.state "Block") [
    plain (.applyTag "Block") [
      committed (.literal "\x7b") [
        plain (.regex "\\s*") [
          committed (.subState "Token_space" (.zeroOrMore false)) [
            committed (.literal "\x7d") []]]]]],
  plain (.state "Lambda") [
    plain (.applyTag "Lambda") [
      committed (.literal "(") [
        plain (.regex "\\s*") [
          committed (.subState "Token_space" (.zeroOrMore false)) [
            committed (.literal ")") []]]]]],
  plain (.state "EOL") [
    committed (.regex "[^\\n]*") []],
  plain (.state "EOB") [
    committed (.regex ".*?\\.\x7d") []],
  plain (.state "StringChar") [
    plain (.applyTag "SpecialChar") [
      committed (.regex "\\\\\\\x7b.*?\\\x7d") []],
    plain (.applyTag "EscapeChar") [
      committed (.regex "\\\\.") []],
    committed (.regex ".") []],
  plain (.state "String") [
    plain (.applyTag "StringLiteral") [
      committed (.literal "\"") [
        committed (.subState "StringChar" (.zeroOrMore false)) [
          committed (.literal "\"") []]]]],
  plain (.state "Number") [
    committed (.regex "-?[0-9]*\\.[0-9]+") [],
    committed (.regex "-?[0-9]+") []],
  plain (.state "Integer") [
    committed (.regex "-?[0-9]+") []],
  plain (.state "SpecialNumber") [
    plain (.applyTag "num_hex") [
      committed (.regex "0x-?[0-9a-f]+") []],
    plain (.applyTag "num_bin") [
      committed (.regex "0b-?[01]+") []],
    plain (.applyTag "num_imaginary") [
      plain (.subState "Number" .once) [
        committed (.literal "i") [
          committed (.subState "Number" (.optional true)) []]]],
    plain (.applyTag "num_rational") [
      plain (.subState "Integer" .once) [
        committed (.literal "r") [
          committed (.subState "Integer" (.optional true)) []]],
      plain (.subState "Number" .once) [
        committed (.literal "r") []]],
    plain (.applyTag "num_pi") [
      plain (.subState "Number" .once) [
        committed (.literal "p") [
          committed (.subState "Number" (.optional true)) []]]],
    plain (.applyTag "num_big") [
      plain (.subState "Integer" .once) [
        committed (.literal "z") []]],
    plain (.applyTag "num_root") [
      plain (.subState "Number" .once) [
        committed (.literal "q") [
          committed (.subState "Number" (.optional true)) []]]],
    plain (.applyTag "num_sci") [
      plain (.subState "Number" .once) [
        committed (.literal "e") [
          committed (.subState "Number" (.optional true)) []]]],
    plain (.applyTag "num_const") [
      plain (.subState "Integer" .once) [
        committed (.literal "c") []]],
    plain (.applyTag "num_str") [
      plain (.subState "Integer" .once) [
        committed (.literal "s") []]],
    plain (.applyTag "num_negate") [
      committed (.subState "Integer" .once) []]],
  plain (.state "Token") [
    plain (.applyTag "SetVariable") [
      plain (.literal ".:") [
        committed (.subState "Variable" .once) []]],
    plain (.applyTag "SetIndex") [
      plain (.literal ".:") [
        committed (.subState "List" .once) []]],
    plain (.applyTag "GetVariable") [
      plain (.literal ".") [
        committed (.subState "Variable" .once) []]],
    plain (.applyTag "GetIndex") [
      plain (.literal ".") [
        committed (.subState "List" .once) []]],
    plain (.applyTag "LineDoc") [
      committed (.literal ".#?") [
        committed (.subState "EOL" .once) []]],
    plain (.applyTag "LineComment") [
      committed (.literal ".#") [
        committed (.subState "EOL" .once) []]],
    plain (.applyTag "BlockDoc") [
      committed (.literal ".\x7b?") [
        committed (.subState "EOB" .once) []]],
    plain (.applyTag "BlockComment") [
      committed (.literal ".\x7b") [
        committed (.subState "EOB" .once) []]],
    plain (.applyTag "Symbol") [
      committed (.literal "::") [
        committed (.subState "String" .once) [],
        committed (.regex "[a-z_]+") [],
        committed (.regex "[M:\\.]?.") []]],
    plain (.applyTag "NamedOperator") [
      committed (.regex ":\\\x7b.*?\\\x7d") []],
    plain (.literal ":") [
      committed (.subState "SpecialNumber" .once) []],
    plain (.applyTag "SetGlobalVariable") [
      plain (.literal ":") [
        committed (.subState "Variable" .once) []]],
    plain (.applyTag "ColonOperator") [
      committed (.regex ":.") []],
    plain (.applyTag "MathOperator") [
      committed (.regex "M.") []],
    plain (.applyTag "cDict") [
      committed (.literal "\u00a2") [
        committed (.regex ".") []]],
    plain (.applyTag "LongStringLiteral") [
      committed (.regex "\"\"\".*?\"\"\"") []],
    committed (.subState "String" .once) [],
    plain (.applyTag "SpecialCharLiteral") [
      committed (.regex "'\\\\.*?'") []],
    plain (.applyTag "CharLiteral") [
      committed (.regex "'.") []],
    plain (.applyTag "NumberLiteral") [
      committed (.subState "Number" .once) []],
    plain (.applyTag "GetGlobalVariable") [
      committed (.subState "Variable" .once) []],
    plain (.subState "List" .once) [],
    plain (.subState "Block" .once) [],
    plain (.subState "Lambda" .once) [],
    plain (.applyTag "DotOperator") [
      committed (.regex "\\..") []],
    plain (.applyTag "SpecialToken") [
      committed (.regex "[,`#]") []],
    plain (.applyTag "Operator") [
      committed (.regex "[^\\s)\x7d\\]]") []]],
  plain (.state "Token_space") [
    plain (.regex "\\s*") [
      committed (.subState "Token" .once) [
        committed (.regex "\\s*") []]]]]

def ayaGrammar : Grammar :=
  ⟨"Token_space", ayaStates, by decide, by decide⟩

end GraphLexer.Language
