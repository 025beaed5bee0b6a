import EngineHost.CommandLine.Run

/-!
# Reports

What a command line is answered with: the lines of output, the lines of complaint and the exit
code. A line that is refused exits with 2, a run that fails with 1, and everything else with 0.

The log is left out. The program also writes log lines to standard error: what is registered and
loaded, the options that the engine refuses, what the engine and the host do in a call, and the
numbers of reads and writes. The environment selects among them, and `--json` gives them another
form. Nothing is read back from the log, so that flag has no part in an answer.

## Main definitions

- `Report` — an answer
- `engineLines` — the listing of the registered engines
- `Request.report` — the answer to a request
- `report` — the answer to a command line
-/

namespace EngineHost.CommandLine

/-- The answer to a command line. -/
structure Report where
  exitCode : UInt32
  /-- The lines on standard output. -/
  output : List String := []
  /-- The lines on standard error about a line that is refused or a run that fails. The lines of the
  log, which go there as well, are not among them. -/
  complaint : List String := []
deriving DecidableEq, Repr

/-- The lines of a text. -/
def textLines (s : String) : List String := s.splitOn "\n"

/-! ## Errors -/

/-- A cause with a label in front; further lines of it are indented like its first one. -/
def causeLines (label indent : String) (cause : String) : List String :=
  match textLines cause with
  | [] => [label]
  | first :: rest => (label ++ first) :: rest.map fun line => indent ++ line

/-- Causes with their numbers from `index` on. -/
def numberedCauses (index : Nat) : List String → List String
  | [] => []
  | cause :: rest =>
    causeLines ("    " ++ toString index ++ ": ") "       " cause ++
      numberedCauses (index + 1) rest

/-- The section about the causes of an error; a cause without a cause of its own has no number. -/
def causesSection : List String → List String
  | [] => []
  | [cause] => "" :: "Caused by:" :: causeLines "    " "    " cause
  | causes => "" :: "Caused by:" :: numberedCauses 0 causes

/-- The complaint about a run that fails. -/
def RunError.complaint (e : RunError) : List String :=
  textLines ("Error: " ++ e.message) ++ causesSection e.causes

/-! ## Help -/

def generalHelp : List String := [
  "Run pluggable execution engines against an in-memory host",
  "",
  "Usage: exvm [OPTIONS] <COMMAND>",
  "",
  "Commands:",
  "  run      Execute code with an engine",
  "  engines  List registered engines and their options",
  "  help     Print this message or the help of the given subcommand(s)",
  "",
  "Options:",
  "      --json     Emit logs as JSON",
  "  -h, --help     Print help",
  "  -V, --version  Print version"]

def Command.helpLines : Command → List String
  | run => [
    "Execute code with an engine",
    "",
    "Usage: exvm run [OPTIONS]",
    "",
    "Options:",
    "      --config <CONFIG>      TOML configuration file [env: EXVM_CONFIG=]",
    "      --json                 Emit logs as JSON",
    "      --code <CODE>          Code to execute, as hex text",
    "      --revision <REVISION>  Revision to run under (e.g. `byzantium`)",
    "      --option <NAME=VALUE>  Engine option, applied before the first call",
    "      --repeat <REPEAT>      Number of times to run the call [default: 1]",
    "  -h, --help                 Print help"]
  | engines => [
    "List registered engines and their options",
    "",
    "Usage: exvm engines [OPTIONS]",
    "",
    "Options:",
    "      --json  Emit logs as JSON",
    "  -h, --help  Print help"]
  | help => [
    "Print this message or the help of the given subcommand(s)",
    "",
    "Usage: exvm help [COMMAND]...",
    "",
    "Arguments:",
    "  [COMMAND]...  Print help for the subcommand(s)"]

/-! ## Answers -/

/-- The line about an option that an engine declares. -/
def optionLine (o : OptionSpec) : String :=
  "  --option " ++ o.name ++ "=<value>  " ++ o.description

/-- The registered engines in the order of their names, each one with the options that it
declares. -/
def engineLines {σ : Type} (registry : Registry σ) : List String :=
  registry.names.flatMap fun name =>
    match registry.create name with
    | .ok e => name :: e.engine.options.map optionLine
    | .error _ => []

/-- The end of a complaint about a command line, for a terminal. -/
def helpHint : String := "\n\nFor more information, try " ++ cited "--help" ++ "."

/-- The answer to a command line that is refused. The complaint is written without control
sequences, those included that the line itself gave. -/
def UsageError.report (e : UsageError) : Report :=
  match e.message? with
  | some message =>
    { exitCode := 2
      complaint := textLines (Text.Terminal.shown ("error: " ++ message ++ helpHint)) }
  | none => { exitCode := 2, complaint := generalHelp }

/-- The answer to a request; `read` is what reading a path gives. -/
def Request.report {σ : Type} (registry : Registry σ) (read : String → Except ReadFault Bytes) :
    Request → Report
  | .run r =>
    match r.run registry read with
    | .ok output => { exitCode := 0, output }
    | .error e => { exitCode := 1, complaint := e.complaint }
  | .engines => { exitCode := 0, output := engineLines registry }
  | .version => { exitCode := 0, output := ["exvm 0.1.0"] }
  | .help topic => { exitCode := 0, output := (topic.map Command.helpLines).getD generalHelp }

/-- The answer to a command line, with the engines that are built in. -/
def report (path : Option String) (read : String → Except ReadFault Bytes) (line : List String) :
    Report :=
  match Request.ofArguments path line with
  | .error e => e.report
  | .ok request => request.report Registry.builtin read

end EngineHost.CommandLine
