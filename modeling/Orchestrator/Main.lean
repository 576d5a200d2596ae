import Orchestrator.CommandLine.Arguments
import Orchestrator.Daemon.Assembly
import Orchestrator.Daemon.Control
import Orchestrator.Daemon.Requests

/-!
The daemon's program. `print-config` writes the settings it would run with. `serve` puts a daemon
together over an engine in memory and answers the requests it reads, one a line: a method, a target
and, after these, perhaps a JSON body.
-/
namespace Orchestrator.CommandLine

/-! ## Messages -/

/-- What is said of a command line that is refused. -/
def UsageError.message : UsageError → String
  | .help => "usage: serve|print-config [options]"
  | .nothingGiven | .missingCommand => "a command is required: serve or print-config"
  | .unknownCommand => "there is no such command"
  | .unknownArgument => "there is no such argument"
  | .invalidValue | .malformedValue => "an option has no value, or a wrong one"
  | .unneededValue => "a switch takes no value"
  | .repeated => "an option is given twice"

/-- What is said when there are no settings. -/
def LoadError.message : LoadError → String
  | .file .notFound => "the settings file does not exist"
  | .file .isDirectory => "the settings file is a directory"
  | .file .notDirectory => "a part of the settings file's path is no directory"
  | .file .other => "the settings file cannot be read"
  | .malformed => "the settings file is malformed"

/-! ## Settings -/

/-- The kind of a failure to read a file; 20 is the system's number for a path through a file. -/
def FileError.ofFailure : IO.Error → FileError
  | .noFileOrDirectory .. => .notFound
  | .inappropriateType _ code _ => if code = 20 then .notDirectory else .isDirectory
  | _ => .other

/-- Reads the settings file that the options name. -/
def readSettingsFile (o : Options) : IO (Except FileError String) :=
  match o.config with
  | none => pure (.error .notFound)
  | some path => do
    try return .ok (← IO.FS.readFile path)
    catch e => return .error (.ofFailure e)

/-- The variables that stand in for options, as the environment has them. -/
def environment : IO (List (String × String)) := do
  let values ← Setting.all.mapM fun s => do
    return (← IO.getEnv s.envVariable).map (s.envVariable, ·)
  return values.filterMap id

/-! ## Serving -/

/-- The request that a line asks for. -/
def requestOf? (line : String) : Option Http.Request :=
  match line.trimAscii.toString.splitOn " " with
  | method :: target :: words =>
    let body := String.intercalate " " words
    let contentType := if body.isEmpty then none else some "application/json"
    Http.Request.build? method target contentType body false
  | _ => none

/-- The line that answers a request. A request that would have to wait is told that there is no
room. -/
def answerLine : Served → String
  | .answered response =>
    toString response.status ++ ((response.body.map fun b => " " ++ b.render).getD "")
  | .waiting _ => "503"
  | .following _ => "101"
  | .panicked => "500"

/-- Serves a request and forgets it if it has to wait. -/
def serveRequest (d : Daemon) (r : Http.Request) : Served × Daemon :=
  let (served, d) := d.request r
  let d := d.settle
  match d.standing served with
  | .waiting ticket => (.waiting ticket, d.withdraw ticket)
  | served => (served, d)

/-- Answers every line of the input. Between two lines the daemon goes on for as long as they lie
apart. -/
def serveLines (d : Daemon) : IO Unit := do
  let input ← IO.getStdin
  let output ← IO.getStdout
  let start ← IO.monoMsNow
  let mut daemon := d
  repeat
    let line ← input.getLine
    if line.isEmpty then break
    daemon := daemon.advanceTo ((← IO.monoMsNow) - start)
    match requestOf? line with
    | none => output.putStrLn "400"
    | some r =>
      let (served, next) := serveRequest daemon r
      daemon := next
      output.putStrLn (answerLine served)
    output.flush

/-- The daemon of some settings at work, around an empty store. -/
def startedDaemon? (s : Settings) : Option Daemon := do
  match ← Daemon.build? (.ok .new : Except Empty Store) s with
  | .ok d =>
    let d := d.startWorkers
    return if s.scheduler.watch then d.startWatch else d

/-- Carries out a command. -/
def Invocation.perform (i : Invocation) : IO UInt32 := do
  let content ← readSettingsFile i.options
  match i.options.load fun _ => content with
  | .error e => IO.eprintln e.message; return 1
  | .ok settings =>
    match i.command with
    | .printConfig =>
      match settings.toToml? with
      | none => IO.eprintln "a number is too large to be written"; return 1
      | some text => IO.print text; return 0
    | .serve =>
      match startedDaemon? settings with
      | none => IO.eprintln "the queue cannot be that long"; return 1
      | some d => serveLines d; return 0

end Orchestrator.CommandLine

open Orchestrator.CommandLine in
/-- Runs the program: the exit code is 2 when the command line is refused. -/
def main (arguments : List String) : IO UInt32 := do
  let env ← environment
  match invocation (fun name => List.lookup name env) ("orchestrator" :: arguments) with
  | .error .help => IO.println UsageError.help.message; return 0
  | .error e => IO.eprintln e.message; return 2
  | .ok i => i.perform
