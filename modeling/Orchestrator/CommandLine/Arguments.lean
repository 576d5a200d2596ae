import Orchestrator.CommandLine.Options

/-!
Reading the daemon's command line: a command, `serve` or `print-config`, followed by its options.
The first thing wrong decides the answer. An option whose value follows as an argument of its own
is looked at only when the next option is met or the arguments end; an unknown argument before that
hides what is wrong with it.
-/
namespace Orchestrator.CommandLine

/-- What the daemon is to do. -/
inductive Command where
  | serve
  | printConfig
  deriving DecidableEq, Repr

def Command.name : Command → String
  | .serve => "serve"
  | .printConfig => "print-config"

def Command.ofName? (name : String) : Option Command :=
  [Command.serve, .printConfig].find? (·.name = name)

/-- A command line that was understood. -/
structure Invocation where
  command : Command
  options : Options
  /-- Are logs written as JSON? -/
  logJson : Bool
  deriving DecidableEq, Repr

/-- The kinds of argument. -/
inductive Argument where
  /-- The mark after which no argument is an option. -/
  | separator
  /-- A long name, and the value attached to it. -/
  | long (name : String) (value : Option String)
  /-- A letter after a single dash. -/
  | short (letter : Char)
  | word (text : String)
  deriving DecidableEq, Repr

/-- The kind of an argument. -/
def Argument.of (text : String) : Argument :=
  match text.toList with
  | ['-', '-'] => .separator
  | '-' :: '-' :: rest =>
    let name := String.ofList (rest.takeWhile (· ≠ '='))
    match rest.dropWhile (· ≠ '=') with
    | [] => .long name none
    | _ :: value => .long name (some (String.ofList value))
  | '-' :: letter :: _ => .short letter
  | _ => .word text

/-- The options read so far. -/
structure Scan where
  options : Options := {}
  /-- The options that were given. -/
  given : List Setting := []
  /-- The option whose value is awaited, or was met and not looked at yet. -/
  pending : Option (Setting × Option String) := none

namespace Scan

/-- Takes an option with its value. -/
def take (scan : Scan) (s : Setting) (value : String) : Except UsageError Scan :=
  if s ∈ scan.given then .error .repeated
  else do
    return { options := ← scan.options.give s value, given := s :: scan.given, pending := none }

/-- Takes the option whose value was not looked at yet. -/
def resolve (scan : Scan) : Except UsageError Scan :=
  match scan.pending with
  | none => .ok scan
  | some (_, none) => .error .invalidValue
  | some (s, some value) => scan.take s value

/-- Takes the options that are not given from the environment. -/
def fromEnvironment (scan : Scan) (env : String → Option String) : Except UsageError Options :=
  (Setting.all.filter (· ∉ scan.given)).foldlM
    (fun options s =>
      match env s.envVariable with
      | none => .ok options
      | some text => options.give s text)
    scan.options

end Scan

/-- Reads the options of a command. -/
def scanOptions (scan : Scan) : List String → Except UsageError Scan
  | [] => scan.resolve
  | text :: rest =>
    match Argument.of text with
    | .separator => if rest.isEmpty then scan.resolve else .error .unknownArgument
    | .short letter =>
      if letter = 'h' then do
        let _ ← scan.resolve
        .error .help
      else .error .unknownArgument
    | .long name value =>
      if name = "help" then
        match value with
        | some _ => .error .unneededValue
        | none => do
          let _ ← scan.resolve
          .error .help
      else
        match Setting.ofName? name, value with
        | none, _ => .error .unknownArgument
        | some s, some value =>
          if s.isSwitch then .error .unneededValue
          else do scanOptions (← (← scan.resolve).take s value) rest
        | some s, none => do
          let scan ← scan.resolve
          if s.isSwitch then scanOptions (← scan.take s "true") rest
          else scanOptions { scan with pending := some (s, none) } rest
    | .word text =>
      match scan.pending with
      | some (s, none) => scanOptions { scan with pending := some (s, some text) } rest
      | _ => .error .unknownArgument

/-- Is the word a command, `help` among them? -/
def isCommandWord (word : String) : Bool := (Command.ofName? word).isSome || word = "help"

/-- What is asked for by the words after `help`: at most one command. -/
def helpTopic : List String → UsageError
  | [] => .help
  | [word] => if isCommandWord word then .help else .unknownCommand
  | _ => .unknownCommand

/-- The value of the switch for JSON logs in the environment, unless both levels give it. -/
def logJsonVariable (givenTwice : Bool) (env : String → Option String) :
    Except UsageError Bool :=
  if givenTwice then .ok true
  else
    match env Setting.logJson.envVariable with
    | none => .ok false
    | some text => switchValue text

/-- Reads a command with its options; `logJson` tells whether the switch for JSON logs stands
before the command. -/
def scanCommand (env : String → Option String) (logJson : Bool) (command : Command)
    (arguments : List String) : Except UsageError Invocation := do
  let scan ← scanOptions {} arguments
  let options ← scan.fromEnvironment env
  let givenTwice := logJson && decide (Setting.logJson ∈ scan.given)
  let fallback ← logJsonVariable givenTwice env
  return ⟨command, options, logJson || options.logJson || fallback⟩

/-- Reads the arguments after the program's name. -/
def scanProgram (env : String → Option String) (logJson : Bool) :
    List String → Except UsageError Invocation
  | [] => do
    let _ ← logJsonVariable logJson env
    if logJson || (env Setting.logJson.envVariable).isSome then .error .missingCommand
    else .error .nothingGiven
  | text :: rest =>
    match Argument.of text with
    | .separator =>
      match rest with
      | [] => do
        let _ ← logJsonVariable logJson env
        if logJson || (env Setting.logJson.envVariable).isSome then .error .missingCommand
        else .error .nothingGiven
      | word :: _ => .error (if isCommandWord word then .unknownArgument else .unknownCommand)
    | .short letter => .error (if letter = 'h' then .help else .unknownArgument)
    | .long name value =>
      if name = "help" then .error (if value.isSome then .unneededValue else .help)
      else if name = Setting.logJson.name then
        if value.isSome then .error .unneededValue
        else if logJson then .error .repeated
        else scanProgram env true rest
      else .error .unknownArgument
    | .word word =>
      match Command.ofName? word with
      | some command => scanCommand env logJson command rest
      | none => .error (if word = "help" then helpTopic rest else .unknownCommand)

/-- Understands a command line: the program's name and its arguments, under an environment. -/
def invocation (env : String → Option String) (arguments : List String) :
    Except UsageError Invocation :=
  scanProgram env false (arguments.drop 1)

end Orchestrator.CommandLine
