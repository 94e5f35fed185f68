import TypeReport.Command.Answer

/-! # The program

Reads the command line, and the standard input and the working directory if they are
asked for, and leaves the answer behind. -/

namespace TypeReport

/-- Whether the arguments ask for the standard input to be read. -/
def needsInput (arguments : List Text) : Bool :=
  match Request.ofArguments arguments with
  | .ok (.run _) => true
  | _ => false

/-- Whether the working directory is asked for, once the input has been read. -/
def needsDirectory (arguments : List Text) (input : ByteArray) : Bool :=
  match Request.ofArguments arguments with
  | .ok (.run o) => o.relativePaths && (String.fromUTF8? input).isSome
  | _ => false

/-- The working directory, or why it is not known. -/
def workingDirectory : IO (Except Text Text) := do
  try
    return .ok (← IO.currentDir).toString.toList
  catch e =>
    return .error e.toString.toList

end TypeReport

open TypeReport in
/-- Answers a command line. -/
def main (args : List String) : IO UInt32 := do
  let arguments := args.map String.toList
  let input ← if needsInput arguments then (← IO.getStdin).readBinToEnd else pure .empty
  let stdout ← IO.getStdout
  let isTerminal ← stdout.isTty
  let directory ← if needsDirectory arguments input then workingDirectory else pure (.ok [])
  let answer := Answer.ofArguments directory isTerminal arguments input
  stdout.putStr (String.ofList answer.stdout)
  stdout.flush
  (← IO.getStderr).putStr (String.ofList answer.stderr)
  return answer.exitCode.toUInt32
