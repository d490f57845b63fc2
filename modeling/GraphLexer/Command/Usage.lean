/-
What a command line that is not carried out is answered with.
-/
import GraphLexer.Command.Arguments

namespace GraphLexer

def usageText : String :=
  "Tokenize text with graph grammars

Usage:
  glex eval  <GRAMMAR | -l LANG> <INPUT | -s TEXT>   tokenize input and print tags as JSON
  glex trace <GRAMMAR | -l LANG> <INPUT | -s TEXT>   trace one attempt node by node
  glex dump  <GRAMMAR | -l LANG>                     show a grammar, or convert it
  glex check <GRAMMAR | -l LANG>                     validate a grammar
  glex langs                                         list the bundled grammars

Options:
  -l, --lang LANG        use a bundled grammar
  -s, --source TEXT      use this text as input
      --entry NAME       start from this state
      --ticks N          nodes visited without progress before giving up (1000)
      --depth N          nodes that may be nested before giving up (256)
      --compact          compact JSON on a terminal, too
  -v                     show every node, and with -vv the input that is left
      --format FORMAT    dump as text, json or binary
  -o, --output FILE      dump into a file
      --color WHEN       auto, always or never
  -h, --help             this text
"

namespace UsageError

def message : UsageError → String
  | helpRequested => "help was asked for"
  | nothingRequested => "a command is required"
  | unknownCommand => "unknown command"
  | unknownArgument => "unexpected argument"
  | repeatedFlag => "an option was given twice"
  | invalidValue => "a value is missing or not allowed"
  | invalidNumber => "a value is not a number in range"
  | unexpectedValue => "a value was given to an option without value"

/-- Whether the answer is what was asked for. -/
def isAnswer (e : UsageError) : Bool :=
  e == helpRequested

end UsageError

end GraphLexer
