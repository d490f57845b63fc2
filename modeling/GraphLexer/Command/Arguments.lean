/-
Command lines: the words after the program's name, read from left to right.

  * A word is `--name` or `--name=value`, a dash with one or more letters, or a plain word. After `--`
    every word is plain.
  * A flag that takes a value takes the one attached to it, or the next plain word.
  * Plain words that no flag takes are the grammar file and the input file, in this order.

All commands that read a grammar know the same flags, so a command can be exchanged for another one
without other changes; only `dump` has some more. A value is judged when the next flag or plain word
follows, or at the end, but an attached value at once. So of two faults the first one is reported,
except that an unknown flag goes before a value that has not been judged yet.
-/
import GraphLexer.Command.Basic
import GraphLexer.Json.Value

namespace GraphLexer

/-- Why a command line is refused, or is answered by an explanation. -/
inductive UsageError where
  | helpRequested
  | nothingRequested
  | unknownCommand
  /-- an unknown flag, or a plain word too many -/
  | unknownArgument
  /-- a flag that may be given once -/
  | repeatedFlag
  /-- a value that is missing, empty or not among those allowed -/
  | invalidValue
  /-- not a number, or one out of range -/
  | invalidNumber
  /-- a value for a flag that takes none -/
  | unexpectedValue
  deriving DecidableEq, Repr

/-! ## Words and flags -/

/-- The forms of a word. -/
inductive Word where
  | separator
  | long (name : String) (value : Option String)
  | short (letters : List Char)
  | plain
  deriving DecidableEq, Repr

/-- The form of a word. A lone dash is plain. -/
def Word.ofString (s : String) : Word :=
  match s.toList with
  | ['-', '-'] => .separator
  | '-' :: '-' :: cs =>
    let value := match cs.dropWhile (· != '=') with
      | [] => none
      | _ :: value => some (String.ofList value)
    .long (String.ofList (cs.takeWhile (· != '='))) value
  | '-' :: c :: cs => .short (c :: cs)
  | _ => .plain

/-- What has a value. -/
inductive Slot where
  | grammarPath
  | inputPath
  | lang
  | source
  | entry
  | ticks
  | depth
  | format
  | output
  | color
  deriving DecidableEq, Repr

/-- What a flag does. -/
inductive Flag where
  | value (slot : Slot)
  | compact
  | verbose
  | help
  deriving DecidableEq, Repr

def Flag.ofName? (name : String) : Option Flag :=
  match name with
  | "lang" => some (.value .lang)
  | "source" => some (.value .source)
  | "entry" => some (.value .entry)
  | "ticks" => some (.value .ticks)
  | "depth" => some (.value .depth)
  | "format" => some (.value .format)
  | "output" => some (.value .output)
  | "color" => some (.value .color)
  | "compact" => some .compact
  | "help" => some .help
  | _ => none

def Flag.ofLetter? (letter : Char) : Option Flag :=
  match letter with
  | 'l' => some (.value .lang)
  | 's' => some (.value .source)
  | 'o' => some (.value .output)
  | 'v' => some .verbose
  | 'h' => some .help
  | _ => none

/-! ## Values -/

/-- What has been given so far. -/
structure Given where
  grammarPath : Option String
  inputPath : Option String
  lang : Option String
  source : Option String
  entry : Option String
  ticks : Option UInt32
  depth : Option UInt32
  format : Option DumpFormat
  output : Option String
  color : Option ColorChoice
  compact : Bool
  /-- how often it was asked to be verbose -/
  verbose : Nat
  deriving DecidableEq, Repr

def Given.nothing : Given :=
  ⟨none, none, none, none, none, none, none, none, none, none, false, 0⟩

/-- The number that a value spells: decimal digits, with or without a sign. -/
def numberOf (s : String) : Except UsageError UInt32 :=
  let (negative, digits) := match s.toList with
    | '-' :: cs => (true, cs)
    | '+' :: cs => (false, cs)
    | cs => (false, cs)
  match Json.natural? digits with
  | some n =>
    if n < UInt32.size ∧ (negative → n = 0) then .ok (UInt32.ofNat n) else .error .invalidNumber
  | none => .error .invalidNumber

def pathOf (s : String) : Except UsageError String :=
  if s.isEmpty then .error .invalidValue else .ok s

def DumpFormat.ofName (s : String) : Except UsageError DumpFormat :=
  match s with
  | "text" => .ok .text
  | "json" => .ok .json
  | "binary" => .ok .binary
  | _ => .error .invalidValue

def ColorChoice.ofName (s : String) : Except UsageError ColorChoice :=
  match s with
  | "auto" => .ok .auto
  | "always" => .ok .always
  | "never" => .ok .never
  | _ => .error .invalidValue

namespace Given

/-- A value for something that may have one value only. -/
def fill {α : Type} (old : Option α) (new : Except UsageError α) (set : Option α → Given) :
    Except UsageError Given :=
  match old with
  | some _ => .error .repeatedFlag
  | none => new.map fun a => set (some a)

def put (g : Given) (slot : Slot) (value : String) : Except UsageError Given :=
  match slot with
  | .grammarPath => fill g.grammarPath (pathOf value) fun v => { g with grammarPath := v }
  | .inputPath => fill g.inputPath (pathOf value) fun v => { g with inputPath := v }
  | .lang => fill g.lang (.ok value) fun v => { g with lang := v }
  | .source => fill g.source (.ok value) fun v => { g with source := v }
  | .entry => fill g.entry (.ok value) fun v => { g with entry := v }
  | .ticks => fill g.ticks (numberOf value) fun v => { g with ticks := v }
  | .depth => fill g.depth (numberOf value) fun v => { g with depth := v }
  | .format => fill g.format (DumpFormat.ofName value) fun v => { g with format := v }
  | .output => fill g.output (pathOf value) fun v => { g with output := v }
  | .color => fill g.color (ColorChoice.ofName value) fun v => { g with color := v }

end Given

/-! ## Commands by name -/

/-- The names of commands. -/
inductive CommandName where
  | eval
  | trace
  | dump
  | check
  | langs
  deriving DecidableEq, Repr

namespace CommandName

def ofString? (s : String) : Option CommandName :=
  match s with
  | "eval" => some eval
  | "trace" => some trace
  | "dump" => some dump
  | "check" => some check
  | "langs" => some langs
  | _ => none

def knows (c : CommandName) (flag : Flag) : Bool :=
  match c, flag with
  | _, .help => true
  | langs, _ => false
  | dump, _ => true
  | _, .value .format => false
  | _, .value .output => false
  | _, _ => true

/-- What plain words are for, in their order. -/
def places : CommandName → List Slot
  | langs => []
  | _ => [.grammarPath, .inputPath]

/-- The command with what was given. With a language, `eval` and `trace` take a single file for the
    input. -/
def complete (c : CommandName) (g : Given) : Command :=
  let shifts := g.lang.isSome && g.inputPath.isNone
  let task : Task := {
    grammar := ⟨if shifts then none else g.grammarPath, g.lang⟩
    input := ⟨if shifts then g.grammarPath else g.inputPath, g.source⟩
    entry := g.entry
    limits := ⟨g.ticks.getD Limits.default.ticks, g.depth.getD Limits.default.depth⟩ }
  let grammar : GrammarSource := ⟨g.grammarPath, g.lang⟩
  let color := g.color.getD .auto
  match c with
  | eval => .eval task g.compact color
  | trace => .trace task g.verbose color
  | dump => .dump grammar (g.format.getD .text) g.output color
  | check => .check grammar color
  | langs => .langs

end CommandName

/-! ## Reading -/

/-- How far a command line has been read: what was given and judged, what has a value that is not
    judged yet, or waits for one, and what is left for plain words. -/
structure Reading where
  given : Given
  pending : Option (Slot × Option String)
  places : List Slot
  deriving DecidableEq, Repr

namespace Reading

def settle (r : Reading) : Except UsageError Reading :=
  match r.pending with
  | none => .ok r
  | some (_, none) => .error .invalidValue
  | some (slot, some value) => (r.given.put slot value).map fun given => ⟨given, none, r.places⟩

def attach (r : Reading) (slot : Slot) (value : String) : Except UsageError Reading := do
  let r ← r.settle
  let given ← r.given.put slot value
  .ok { r with given := given }

def flag (r : Reading) (flag : Flag) : Except UsageError Reading := do
  let r ← r.settle
  match flag with
  | .value slot => .ok { r with pending := some (slot, none) }
  | .compact =>
    if r.given.compact then .error .repeatedFlag
    else .ok { r with given := { r.given with compact := true } }
  | .verbose => .ok { r with given := { r.given with verbose := min 255 (r.given.verbose + 1) } }
  | .help => .error .helpRequested

/-- Takes a plain word that is not the value of a flag. -/
def plain (r : Reading) (s : String) : Except UsageError Reading :=
  match r.places with
  | [] => .error .unknownArgument
  | slot :: places => r.settle.map fun r => ⟨r.given, some (slot, some s), places⟩

def long (c : CommandName) (r : Reading) (name : String) (value : Option String) :
    Except UsageError Reading :=
  match (Flag.ofName? name).filter c.knows, value with
  | none, _ => .error .unknownArgument
  | some (.value slot), some value => r.attach slot value
  | some _, some _ => .error .unexpectedValue
  | some flag, none => r.flag flag

/-- Takes letters after a dash. The first one that takes a value takes all letters after it, less an
    equals sign at their start. -/
def letters (c : CommandName) (r : Reading) : List Char → Except UsageError Reading
  | [] => .ok r
  | letter :: rest =>
    match (Flag.ofLetter? letter).filter c.knows, rest with
    | none, _ => .error .unknownArgument
    | some (.value slot), '=' :: value => r.attach slot (String.ofList value)
    | some (.value slot), c :: cs => r.attach slot (String.ofList (c :: cs))
    | some flag, _ => do
      let r ← r.flag flag
      letters c r rest

def words (c : CommandName) (r : Reading) : List String → Except UsageError Given
  | [] => r.settle.map given
  | s :: rest =>
    match Word.ofString s with
    | .separator => do
      let r ← rest.foldlM plain r
      r.settle.map given
    | .long name value => do
      let r ← r.long c name value
      words c r rest
    | .short cs => do
      let r ← r.letters c cs
      words c r rest
    | .plain =>
      match r.pending with
      | some (slot, none) => words c { r with pending := some (slot, some s) } rest
      | _ => do
        let r ← r.plain s
        words c r rest

end Reading

namespace Command

/-- The answer to `help` and the words after it, which may name one command. -/
def help : List String → UsageError
  | [] => .helpRequested
  | [s] => if s = "help" ∨ (CommandName.ofString? s).isSome then .helpRequested else .unknownCommand
  | _ => .unknownCommand

/-- The answer to a command line that does not start with a command. -/
def noCommand (s : String) (rest : List String) : UsageError :=
  match Word.ofString s with
  | .separator =>
    match rest with
    | [] => .nothingRequested
    | s :: _ =>
      if s = "help" ∨ (CommandName.ofString? s).isSome then .unknownArgument else .unknownCommand
  | .long name value =>
    if name = "help" then if value.isSome then .unexpectedValue else .helpRequested
    else .unknownArgument
  | .short letters => if letters.head? = some 'h' then .helpRequested else .unknownArgument
  | .plain => if s = "help" then help rest else .unknownCommand

def ofArguments : List String → Except UsageError Command
  | [] => .error .nothingRequested
  | s :: rest =>
    match CommandName.ofString? s with
    | some c => ((⟨.nothing, none, c.places⟩ : Reading).words c rest).map c.complete
    | none => .error (noCommand s rest)

end Command

end GraphLexer
