import TypeReport.Report.Terminal
import TypeReport.Run

/-! # Options

Each argument of the command line makes one setting, and the settings are applied
to the default options from left to right, so that a later one wins.  A flag that
asks for help or for the version wins over everything else on the line, and the
first of several such flags wins over the others. -/

namespace TypeReport

/-- How diagnostics are written: as panels for people or as records for tools. -/
inductive Format where
  | terminal
  | json
deriving DecidableEq

def Format.ofName? (name : Text) : Option Format :=
  if name = "terminal".toList then some .terminal
  else if name = "json".toList then some .json
  else none

def ColourMode.ofName? (name : Text) : Option ColourMode :=
  if name = "auto".toList then some .auto
  else if name = "always".toList then some .always
  else if name = "never".toList then some .never
  else none

/-- Everything that can be chosen for a run.  Relative paths are shown from the working directory
on. -/
structure Options where
  format : Format := .terminal
  colour : ColourMode := .auto
  policy : Policy := .abort
  dialect : Dialect := .ocaml4
  relativePaths : Bool := true
deriving DecidableEq

/-- Why a command line cannot be acted on. -/
inductive UsageError where
  | unknownFormat (name : Text)
  | unknownColour (name : Text)
  | unknownDialect (name : Text)
  | unexpectedArgument (argument : Text)
deriving DecidableEq

def UsageError.message : UsageError → Text
  | unknownFormat name =>
      "unknown output format '".toList ++ name ++ "', options: terminal, json".toList
  | unknownColour name =>
      "unknown color mode '".toList ++ name ++ "', options: auto, always, never".toList
  | unknownDialect name =>
      "unknown dialect '".toList ++ name ++ "', options: ".toList ++
        ", ".toList.intercalate Dialect.names
  | unexpectedArgument argument => "unexpected argument '".toList ++ argument ++ ['\'']

/-- What one argument chooses. -/
inductive Setting where
  | format (f : Format)
  | colour (c : ColourMode)
  | dialect (d : Dialect)
  | policy (p : Policy)
  | relativePaths (b : Bool)
deriving DecidableEq

namespace Setting

/-- The setting that an argument makes. -/
def ofArgument (argument : Text) : Except UsageError Setting :=
  if let some name := argument.after? "--format=".toList then
    require (.unknownFormat name) ((Format.ofName? name).map format)
  else if let some name := argument.after? "--color=".toList then
    require (.unknownColour name) ((ColourMode.ofName? name).map colour)
  else if let some name := argument.after? "--dialect=".toList then
    require (.unknownDialect name) ((Dialect.ofName? name).map dialect)
  else if argument = "--keep-going".toList ∨ argument = "-k".toList then
    .ok (policy .isolate)
  else if argument = "--no-relative-paths".toList then
    .ok (relativePaths false)
  else
    .error (.unexpectedArgument argument)

def apply (o : Options) : Setting → Options
  | format f => { o with format := f }
  | colour c => { o with colour := c }
  | dialect d => { o with dialect := d }
  | policy p => { o with policy := p }
  | relativePaths b => { o with relativePaths := b }

end Setting

/-- What a command line asks for. -/
inductive Request where
  | run (o : Options)
  | help
  | version
deriving DecidableEq

namespace Request

/-- What an argument asks for if it is a flag that wins over everything else. -/
def ofFlag? (argument : Text) : Option Request :=
  if argument = "--help".toList ∨ argument = "-h".toList then some .help
  else if argument = "--version".toList ∨ argument = "-V".toList then some .version
  else none

/-- What the arguments of a command line ask for. -/
def ofArguments (arguments : List Text) : Except UsageError Request :=
  match arguments.findSome? ofFlag? with
  | some request => .ok request
  | none => do return .run ((← arguments.mapM Setting.ofArgument).foldl Setting.apply {})

example :
    (ofArguments ["--format=json".toList, "--format=terminal".toList]).toOption =
      some (.run {}) := by decide

example : (ofArguments ["--color=red".toList, "-V".toList, "-h".toList]).toOption =
    some .version := by decide

end Request
end TypeReport
