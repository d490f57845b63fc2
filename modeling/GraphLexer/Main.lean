/-
The program: its surroundings, its command line and its exit status.
-/
import GraphLexer.Command.Run
import GraphLexer.Command.Usage

namespace GraphLexer

/-- Why a file cannot be used, as messages tell it. -/
def reasonText : IO.Error → String
  | .noFileOrDirectory _ _ _ => "No such file or directory (os error 2)"
  | .permissionDenied _ code _ => "Permission denied (os error " ++ toString code ++ ")"
  | e => toString e

/-- The outcome of an action, or why it failed. -/
def outcomeOf {α : Type} (action : IO α) : IO (Except String α) := do
  match ← action.toBaseIO with
  | .ok a => pure (.ok a)
  | .error e => pure (.error (reasonText e))

def processHost : IO (Host IO) := do
  let output ← IO.getStdout
  let errors ← IO.getStderr
  let input ← IO.getStdin
  pure {
    fetch := fun path => outcomeOf ((·.toList) <$> IO.FS.readBinFile path)
    fetchInput := outcomeOf ((·.toList) <$> input.readBinToEnd)
    store := fun path bytes => outcomeOf (IO.FS.writeBinFile path ⟨bytes.toArray⟩)
    outputIsTerminal := ← output.isTty
    errorsAreTerminal := ← errors.isTty }

/-- Carries out a command line and gives the exit status. -/
def runArguments (args : List String) : IO UInt32 := do
  match Command.ofArguments args with
  | .error e =>
    if e.isAnswer then
      IO.print usageText
      pure 0
    else
      IO.eprint ("error: " ++ e.message ++ "\n\n" ++ usageText)
      pure 2
  | .ok command =>
    let host ← processHost
    match ← host.run command with
    | none =>
      IO.eprintln "error: the evaluation does not end"
      pure 2
    | some output =>
      let stream ← IO.getStdout
      stream.write ⟨output.out.toArray⟩
      stream.flush
      IO.eprint output.notice.render
      pure (UInt32.ofNat output.status)

end GraphLexer

def main (args : List String) : IO UInt32 :=
  GraphLexer.runArguments args
