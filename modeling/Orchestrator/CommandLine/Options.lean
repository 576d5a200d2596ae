import Orchestrator.Settings

/-!
The options of the daemon's commands. Each option has a long name and a variable of the
environment that stands in for it; a given option wins over the settings file.
-/
namespace Orchestrator.CommandLine

/-- An option of a command. -/
inductive Setting where
  | config
  | port
  | dataDir
  | workers
  | queueCapacity
  | deploymentRetries
  | retryDelay
  | watch
  | pollInterval
  | network
  | logJson
  deriving DecidableEq, Repr

namespace Setting

/-- All options, in the order in which their variables are looked at. -/
def all : List Setting :=
  [.config, .port, .dataDir, .workers, .queueCapacity, .deploymentRetries, .retryDelay, .watch,
    .pollInterval, .network, .logJson]

/-- The long name, without its dashes. -/
def name : Setting → String
  | .config => "config"
  | .port => "port"
  | .dataDir => "data-dir"
  | .workers => "workers"
  | .queueCapacity => "queue-capacity"
  | .deploymentRetries => "deployment-retries"
  | .retryDelay => "retry-delay-ms"
  | .watch => "watch"
  | .pollInterval => "poll-interval-ms"
  | .network => "network"
  | .logJson => "log-json"

/-- The option with a long name. -/
def ofName? (name : String) : Option Setting := all.find? (·.name = name)

/-- The variable of the environment that stands in for the option. -/
def envVariable : Setting → String
  | .config => "HOIST_CONFIG"
  | .port => "HOIST_PORT"
  | .dataDir => "HOIST_DATA_DIR"
  | .workers => "HOIST_WORKERS"
  | .queueCapacity => "HOIST_QUEUE_CAPACITY"
  | .deploymentRetries => "HOIST_DEPLOYMENT_RETRIES"
  | .retryDelay => "HOIST_RETRY_DELAY_MS"
  | .watch => "HOIST_WATCH"
  | .pollInterval => "HOIST_POLL_INTERVAL_MS"
  | .network => "HOIST_NETWORK"
  | .logJson => "HOIST_LOG_JSON"

/-- Is the option a switch, which takes no value on the command line? -/
def isSwitch (s : Setting) : Bool := s = .watch || s = .logJson

end Setting

/-- Why a command line is refused, or what it asks for in place of a command. -/
inductive UsageError where
  /-- The help text is asked for. -/
  | help
  /-- Nothing is given at all. -/
  | nothingGiven
  | missingCommand
  | unknownCommand
  | unknownArgument
  /-- An option has no value, or one that can never be right. -/
  | invalidValue
  /-- The value of an option is not of its kind. -/
  | malformedValue
  /-- A switch is given a value. -/
  | unneededValue
  /-- An option is given twice. -/
  | repeated
  deriving DecidableEq, Repr

/-- What the options of a command give. -/
structure Options where
  config : Option String := none
  port : Option UInt16 := none
  dataDir : Option String := none
  workers : Option UInt64 := none
  queueCapacity : Option UInt64 := none
  deploymentRetries : Option UInt32 := none
  retryDelay : Option UInt64 := none
  watch : Bool := false
  pollInterval : Option UInt64 := none
  network : Option String := none
  logJson : Bool := false
  deriving DecidableEq, Repr

/-! ## Values -/

/-- The number a text writes: digits, with or without a plus sign in front. -/
def unsigned? (text : String) : Option Nat :=
  let digits := match text.toList with
    | '+' :: rest => rest
    | s => s
  if digits.isEmpty || !digits.all Char.isDigit then none else some (Text.ofDecimal digits)

/-- The number a text writes, where a minus sign may stand in front of zero. -/
def signed? (text : String) : Option Nat :=
  match text.toList with
  | '-' :: rest => if unsigned? (String.ofList ('+' :: rest)) = some 0 then some 0 else none
  | _ => unsigned? text

/-- A number below a limit. -/
def numberBelow (read : String → Option Nat) (limit : Nat) (text : String) :
    Except UsageError Nat :=
  match read text with
  | some n => if n < limit then .ok n else .error .malformedValue
  | none => .error .malformedValue

/-- A path, which is not empty. -/
def pathValue (text : String) : Except UsageError String :=
  if text = "" then .error .invalidValue else .ok text

/-- The value of a switch in the environment. -/
def switchValue (text : String) : Except UsageError Bool :=
  if text = "true" then .ok true else if text = "false" then .ok false else .error .invalidValue

namespace Options

/-- The options with one more given by its text. -/
def give (o : Options) (s : Setting) (text : String) : Except UsageError Options :=
  let word32 := numberBelow signed? UInt32.size
  let word64 := numberBelow unsigned? UInt64.size
  match s with
  | .config => do return { o with config := ← pathValue text }
  | .port => do return { o with port := UInt16.ofNat (← numberBelow signed? UInt16.size text) }
  | .dataDir => do return { o with dataDir := ← pathValue text }
  | .workers => do return { o with workers := UInt64.ofNat (← word64 text) }
  | .queueCapacity => do return { o with queueCapacity := UInt64.ofNat (← word64 text) }
  | .deploymentRetries => do return { o with deploymentRetries := UInt32.ofNat (← word32 text) }
  | .retryDelay => do return { o with retryDelay := UInt64.ofNat (← word64 text) }
  | .watch => do return { o with watch := ← switchValue text }
  | .pollInterval => do return { o with pollInterval := UInt64.ofNat (← word64 text) }
  | .network => .ok { o with network := text }
  | .logJson => do return { o with logJson := ← switchValue text }

/-- The settings with what the options give put over them. The switch for watching can be turned on
only. -/
def applyTo (o : Options) (s : Settings) : Settings :=
  { s with
    jobs := { s.jobs with
      workers := o.workers.getD s.jobs.workers
      queueCapacity := o.queueCapacity.getD s.jobs.queueCapacity
      deploymentRetries := o.deploymentRetries.getD s.jobs.deploymentRetries
      retryDelay := o.retryDelay.getD s.jobs.retryDelay }
    scheduler := { s.scheduler with
      watch := o.watch || s.scheduler.watch
      pollInterval := o.pollInterval.getD s.scheduler.pollInterval }
    engine := { s.engine with network := o.network.getD s.engine.network }
    server := { s.server with
      port := o.port.getD s.server.port
      dataDir := o.dataDir.getD s.server.dataDir } }

end Options

/-! ## Loading the settings -/

/-- Why a file cannot be read. -/
inductive FileError where
  | notFound
  | isDirectory
  | notDirectory
  | other
  deriving DecidableEq, Repr

/-- Why there are no settings. -/
inductive LoadError where
  | file (error : FileError)
  /-- The settings file is not one. -/
  | malformed
  deriving DecidableEq, Repr

/-- The settings under the given options; `fileText` finds the text of the settings file. -/
def Options.load (o : Options) (fileText : String → Except FileError String) :
    Except LoadError Settings :=
  match o.config with
  | none => .ok (o.applyTo {})
  | some path =>
    match fileText path with
    | .error e => .error (.file e)
    | .ok text =>
      match Settings.ofToml? text with
      | none => .error .malformed
      | some s => .ok (o.applyTo s)

end Orchestrator.CommandLine
