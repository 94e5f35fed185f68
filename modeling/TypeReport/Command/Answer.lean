import TypeReport.Command.Options
import TypeReport.Report.Writer

/-! # The command

The answer to a command line and an input is an exit code and what goes to the two
outputs.  A run writes to the standard output as it goes on, and what it has written
stays there when it fails; why it failed goes to the error output.  The working
directory may be unknown, but that is found out only when paths are made relative to
it. -/

namespace TypeReport

/-- What a command leaves behind.  The exit code is zero for success, one for an input that cannot
be read and two for wrong usage. -/
structure Answer where
  exitCode : Nat
  stdout : Text
  stderr : Text
deriving DecidableEq

/-- Why a run over an input fails. -/
inductive RunError where
  | parse (e : Failure)
  | directory (cause : Text)
deriving DecidableEq

/-- What is said about a run that fails. -/
def RunError.message : RunError → Text
  | parse e => e.message
  | directory cause => "cannot determine the working directory: ".toList ++ cause

namespace Options

/-- How paths are normalised, given the directory they may be made relative to. -/
def pathStyle (o : Options) (base : Text) : PathStyle :=
  if o.relativePaths then Path.relativeTo base else id

/-- The writer of a format, given whether the output is a terminal. -/
def writer (o : Options) (isTerminal : Bool) : Writer :=
  match o.format with
  | .terminal => .terminal { colours := o.colour.useColours isTerminal }
  | .json => .json true

def run (o : Options) (base input : Text) : Run :=
  Run.ofText o.dialect (o.pathStyle base) o.policy input

/-- What is written when the input has no errors. -/
def emptyReport (o : Options) : Text :=
  match o.format with
  | .terminal => "No errors found!\n".toList
  | .json => "[]\n".toList

/-- What is written in the course of a run. -/
def output (o : Options) (isTerminal : Bool) (r : Run) : Text :=
  (o.writer isTerminal).write r.events ++
    match r.result with
    | .ok .noErrors => o.emptyReport
    | _ => []

/-- The directory that paths are made relative to, given the working directory or why that is not
known.  If paths stay as they are there is no such directory, and nothing asks for one. -/
def base (o : Options) (directory : Except Text Text) : Except RunError Text :=
  if o.relativePaths then directory.mapError .directory else .ok []

/-- What is written for an input, and how that ends. -/
def execute (o : Options) (directory : Except Text Text) (isTerminal : Bool) (input : Text) :
    Text × Except RunError Outcome :=
  match o.base directory with
  | .error e => ([], .error e)
  | .ok base =>
      let r := o.run base input
      (o.output isTerminal r, r.result.mapError .parse)

end Options

namespace Answer

def versionText : Text := "camlerr 0.1.0\n".toList

def helpText : Text :=
  ("camlerr - legible OCaml type errors\n\n" ++
   "Usage: camlerr [options] < compiler-output.txt\n\n" ++
   "Options:\n" ++
   "  --format=<fmt>       Output format: terminal, json (default: terminal)\n" ++
   "  --color=<mode>       Color: auto, always, never (default: auto)\n" ++
   "  -k, --keep-going     Skip blocks that fail to parse instead of aborting\n" ++
   "  --dialect=<name>     Compiler wording (default: ocaml-4)\n" ++
   "  --no-relative-paths  Show paths exactly as the compiler printed them\n" ++
   "  -h, --help           Show this help\n" ++
   "  -V, --version        Show version\n\n" ++
   "Environment:\n" ++
   "  RUST_LOG             Enable debug logging on stderr (e.g. camlerr_diagnostic=debug)\n").toList

/-- An answer without a fault. -/
def success (stdout : Text) : Answer := ⟨0, stdout, []⟩

/-- An answer that says what is wrong, after `stdout` has been written. -/
def failure (exitCode : Nat) (stdout message : Text) : Answer :=
  ⟨exitCode, stdout, "error: ".toList ++ message ++ ['\n']⟩

def ofUsageError (e : UsageError) : Answer :=
  failure 2 [] (e.message ++ "\nRun 'camlerr --help' for usage.".toList)

/-- What is said about an input that is not a text. -/
def notText : Text := "failed to read stdin: stream did not contain valid UTF-8".toList

def ofInput (o : Options) (directory : Except Text Text) (isTerminal : Bool) (input : ByteArray) :
    Answer :=
  match String.fromUTF8? input with
  | none => failure 1 [] notText
  | some s =>
      match o.execute directory isTerminal s.toList with
      | (stdout, .error e) => failure 1 stdout e.message
      | (stdout, .ok _) => success stdout

/-- The answer to a command line and an input. -/
def ofArguments (directory : Except Text Text) (isTerminal : Bool) (arguments : List Text)
    (input : ByteArray) : Answer :=
  match Request.ofArguments arguments with
  | .error e => ofUsageError e
  | .ok .help => success helpText
  | .ok .version => success versionText
  | .ok (.run o) => ofInput o directory isTerminal input

/-- The answer to a command line and an input in a working directory that is known. -/
def ofCommand (directory : Text) (isTerminal : Bool) (arguments : List Text) (input : ByteArray) :
    Answer :=
  ofArguments (.ok directory) isTerminal arguments input

end Answer
end TypeReport
