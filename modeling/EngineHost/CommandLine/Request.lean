import EngineHost.CommandLine.Argument
import EngineHost.CommandLine.Count
import EngineHost.Revision
import EngineHost.Text.Terminal

/-!
# Requests on the command line

What a command line asks for, and why one is refused. An option of `run` that is given without an
equals sign waits for its value in the argument behind it, and is judged only when the next known
option comes or the line ends. Whatever is not known is refused at once, before the option that
is still waiting.

## Main definitions

- `RunOption` — the options of `run`
- `RunRequest`, `Request` — what is asked for
- `UsageError` — why a command line is refused
- `Request.ofArguments` — the request that a command line makes
-/

namespace EngineHost.CommandLine

/-- The options of `run`, each of which takes a value. -/
inductive RunOption where
  | config
  /-- The code to run instead of the configured one. -/
  | code
  /-- The revision to run under instead of the configured one. -/
  | revision
  | option
  | count
deriving DecidableEq, Repr

namespace RunOption

/-- The options, in the order in which help lists them. -/
def all : List RunOption := [config, code, revision, option, count]

/-- The name behind the two hyphens. -/
def name : RunOption → String
  | config => "config"
  | code => "code"
  | revision => "revision"
  | option => "option"
  | count => "repeat"

/-- What stands for the value in diagnostics. -/
def placeholder : RunOption → String
  | config => "CONFIG"
  | code => "CODE"
  | revision => "REVISION"
  | option => "NAME=VALUE"
  | count => "REPEAT"

def label (o : RunOption) : String := "--" ++ o.name ++ " <" ++ o.placeholder ++ ">"

end RunOption

/-- Why the value of an option is refused. -/
inductive ValueFault where
  | revision (reason : ValueError)
  | assignment (reason : AssignmentError)
  | count (reason : CountError)
deriving DecidableEq, Repr

def ValueFault.message : ValueFault → String
  | revision reason => reason.message
  | assignment reason => reason.message
  | count reason => reason.message

/-- Why a command line is refused. -/
inductive UsageError where
  /-- There is nothing on the line. -/
  | nothingAsked
  /-- There are options but no command. -/
  | missingCommand
  | unknownCommand (text : String)
  | unexpectedArgument (text : String)
  | unwantedValue (flag value : String)
  | missingValue (o : RunOption)
  /-- An option or flag that may be given once was given twice. -/
  | repeated (label : String)
  | badValue (o : RunOption) (text : String) (fault : ValueFault)
deriving DecidableEq, Repr

/-- A text from the command line as a complaint quotes it, with emphasis on a terminal. -/
def cited (text : String) : String := "'" ++ Text.Terminal.emphasised text ++ "'"

/-- The wording of an error for a terminal; a line with nothing on it is answered with help
alone. What the line gave is emphasised, except where it is part of the reason for a bad value. -/
def UsageError.message? : UsageError → Option String
  | nothingAsked => none
  | missingCommand => some "'exvm' requires a subcommand but one was not provided"
  | unknownCommand text => some ("unrecognized subcommand " ++ cited text)
  | unexpectedArgument text => some ("unexpected argument " ++ cited text ++ " found")
  | unwantedValue flag value =>
    some ("unexpected value " ++ cited value ++ " for '" ++ flag ++
      "' found; no more were expected")
  | missingValue o => some ("a value is required for '" ++ o.label ++ "' but none was supplied")
  | repeated label => some ("the argument '" ++ label ++ "' cannot be used multiple times")
  | badValue o text fault =>
    some ("invalid value " ++ cited text ++ " for '" ++ o.label ++ "': " ++ fault.message)

/-- What `run` is asked to do. -/
structure RunRequest where
  /-- The path of the configuration; the default configuration if there is none. -/
  config : Option String := none
  code : Option String := none
  revision : Option Revision := none
  /-- Options for the engine, in the order in which they were given. -/
  options : List Assignment := []
  /-- The number of calls, if one was given. -/
  count : Option UInt32 := none
deriving DecidableEq

inductive Command where
  | run
  | engines
  | help
deriving DecidableEq, Repr

namespace Command

/-- The commands, in the order in which help lists them. -/
def all : List Command := [run, engines, help]

def name : Command → String
  | run => "run"
  | engines => "engines"
  | help => "help"

def ofName? (s : String) : Option Command := all.find? fun c => c.name == s

end Command

inductive Request where
  | run (request : RunRequest)
  | engines
  | version
  /-- Help on a command, or on all of them. -/
  | help (topic : Option Command)
deriving DecidableEq

/-! ## The options of `run` -/

namespace RunRequest

/-- Puts a value in place that may be given once. -/
def once {α : Type} (o : RunOption) (present : Option α) (read : Except UsageError α)
    (put : α → RunRequest) : Except UsageError RunRequest :=
  match present with
  | some _ => .error (.repeated o.label)
  | none => read.map put

/-- What reading the text of an option's value gave, with the option and the text in its error. -/
def judged {ε α : Type} (o : RunOption) (text : String) (fault : ε → ValueFault) :
    Except ε α → Except UsageError α :=
  Except.mapError fun e => .badValue o text (fault e)

/-- Takes the text of an option's value in. -/
def accept (r : RunRequest) (o : RunOption) (text : String) : Except UsageError RunRequest :=
  match o with
  | .config =>
    once o r.config (if text = "" then .error (.missingValue o) else .ok text)
      fun v => { r with config := some v }
  | .code => once o r.code (.ok text) fun v => { r with code := some v }
  | .revision =>
    once o r.revision (judged o text .revision (Revision.parse text))
      fun v => { r with revision := some v }
  | .option =>
    (judged o text .assignment (Assignment.parse text)).map
      fun v => { r with options := r.options ++ [v] }
  | .count =>
    once o r.count (judged o text .count (parseCount text))
      fun v => { r with count := some v }

end RunRequest

/-! ## Reading a command line -/

/-- An option that was given without an equals sign. -/
inductive Waiting where
  | nothing
  /-- The value has not come yet. -/
  | forValue (o : RunOption)
  /-- The value has come but is not judged yet. -/
  | withValue (o : RunOption) (text : String)

/-- Judges the option that is waiting. -/
def Waiting.settle (w : Waiting) (r : RunRequest) : Except UsageError RunRequest :=
  match w with
  | nothing => .ok r
  | forValue o => .error (.missingValue o)
  | withValue o text => r.accept o text

/-- The error of an argument behind a separator, where no option is looked for. -/
def refuseRest {α : Type} (otherwise : Except UsageError α) :
    List String → Except UsageError α
  | [] => otherwise
  | text :: _ => .error (.unexpectedArgument text)

inductive Flag where
  | json
  | help
deriving DecidableEq

def Flag.ofName? : String → Option Flag
  | "json" => some .json
  | "help" => some .help
  | _ => none

/-- What remains to be done when a flag is met: help ends the reading. -/
def flagged {α : Type} (flag : Flag) (json : Bool) (help : α) (more : Except UsageError α) :
    Except UsageError α :=
  match flag with
  | .help => .ok help
  | .json => if json then .error (.repeated "--json") else more

/-- Reads the arguments of `run`, behind those that made `r`; `json` says whether that flag was
given. -/
def readRun (r : RunRequest) (json : Bool) (waiting : Waiting) :
    List String → Except UsageError Request
  | [] => (waiting.settle r).map .run
  | text :: rest =>
    match Argument.ofText text with
    | .separator => refuseRest ((waiting.settle r).map .run) rest
    | .long name value? =>
      match Flag.ofName? name, RunOption.all.find? fun o => o.name == name, value? with
      | some _, _, some value => .error (.unwantedValue ("--" ++ name) value)
      | some flag, _, none =>
        match waiting.settle r with
        | .error e => .error e
        | .ok r => flagged flag json (.help (some .run)) (readRun r true .nothing rest)
      | none, some o, value? =>
        match waiting.settle r with
        | .error e => .error e
        | .ok r =>
          match value? with
          | none => readRun r json (.forValue o) rest
          | some value =>
            match r.accept o value with
            | .error e => .error e
            | .ok r => readRun r json .nothing rest
      | none, none, _ => .error (.unexpectedArgument ("--" ++ name))
    | .short letter =>
      if letter = 'h' then (waiting.settle r).map fun _ => .help (some .run)
      else .error (.unexpectedArgument (String.ofList ['-', letter]))
    | .plain text =>
      match waiting with
      | .forValue o => readRun r json (.withValue o text) rest
      | _ => .error (.unexpectedArgument text)

def readEngines (json : Bool) : List String → Except UsageError Request
  | [] => .ok .engines
  | text :: rest =>
    match Argument.ofText text with
    | .separator => refuseRest (.ok .engines) rest
    | .long name value? =>
      match Flag.ofName? name, value? with
      | some _, some value => .error (.unwantedValue ("--" ++ name) value)
      | some flag, none => flagged flag json (.help (some .engines)) (readEngines true rest)
      | none, _ => .error (.unexpectedArgument ("--" ++ name))
    | .short letter =>
      if letter = 'h' then .ok (.help (some .engines))
      else .error (.unexpectedArgument (String.ofList ['-', letter]))
    | .plain text => .error (.unexpectedArgument text)

/-- Reads the arguments of `help`, which name a command; no command has commands of its own. -/
def readHelp : List String → Except UsageError Request
  | [] => .ok (.help none)
  | name :: rest =>
    match Command.ofName? name, rest with
    | none, _ => .error (.unknownCommand name)
    | some command, [] => .ok (.help (some command))
    | some _, text :: _ => .error (.unknownCommand text)

/-- The error of a line that ends before a command. -/
def withoutCommand (json : Bool) : UsageError := if json then .missingCommand else .nothingAsked

/-- The error of an argument behind a separator, where a command is looked for. -/
def misplaced (json : Bool) : List String → UsageError
  | [] => withoutCommand json
  | text :: _ =>
    match Command.ofName? text with
    | some _ => .unexpectedArgument text
    | none => .unknownCommand text

/-- Reads a command line up to its command, and then the arguments of that command. -/
def readLine (json : Bool) : List String → Except UsageError Request
  | [] => .error (withoutCommand json)
  | text :: rest =>
    match Command.ofName? text with
    | some .run => readRun {} false .nothing rest
    | some .engines => readEngines false rest
    | some .help => readHelp rest
    | none =>
      match Argument.ofText text with
      | .separator => .error (misplaced json rest)
      | .long name value? =>
        match Flag.ofName? name, name == "version", value? with
        | none, false, _ => .error (.unexpectedArgument ("--" ++ name))
        | _, _, some value => .error (.unwantedValue ("--" ++ name) value)
        | some flag, _, none => flagged flag json (.help none) (readLine true rest)
        | none, true, none => .ok .version
      | .short letter =>
        if letter = 'h' then .ok (.help none)
        else if letter = 'V' then .ok .version
        else .error (.unexpectedArgument (String.ofList ['-', letter]))
      | .plain text => .error (.unknownCommand text)

/-- Fills in the path of the configuration where the line gives none. -/
def Request.withConfig (path : Option String) : Request → Except UsageError Request
  | .run r =>
    match r.config, path with
    | none, some path => (r.accept .config path).map .run
    | _, _ => .ok (.run r)
  | request => .ok request

/-- The request that a command line makes, with the path of the configuration that holds unless
the line gives another. -/
def Request.ofArguments (path : Option String) (line : List String) : Except UsageError Request :=
  match readLine false line with
  | .error e => .error e
  | .ok request => request.withConfig path

end EngineHost.CommandLine
