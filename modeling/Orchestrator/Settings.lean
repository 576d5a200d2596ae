import Orchestrator.Toml.Parser
import Orchestrator.Toml.Quoted

/-!
The settings of the daemon, as written in its TOML file. Every table and every key may be left out;
what is left out has its default. Keys the daemon does not know are passed over.
-/
namespace Orchestrator

/-- How jobs are queued, run and tried again. -/
structure JobSettings where
  workers : UInt64 := 2
  /-- How many jobs wait before a new one has to. -/
  queueCapacity : UInt64 := 32
  /-- The most attempts any job may have. -/
  maxRetries : UInt32 := 5
  /-- The attempts of a deployment job. -/
  deploymentRetries : UInt32 := 3
  /-- Milliseconds between a failed attempt and the next one. -/
  retryDelay : UInt64 := 5000
  deriving DecidableEq, Repr

/-- Whether and how often the drift of deployments is looked for. -/
structure SchedulerSettings where
  watch : Bool := false
  /-- Milliseconds from one pass to the next. -/
  pollInterval : UInt64 := 30000
  deriving DecidableEq, Repr

/-- The network that containers join. -/
structure EngineSettings where
  network : String := "hoist"
  deriving DecidableEq, Repr

/-- How long a new container may take to run. -/
structure HealthSettings where
  retries : UInt32 := 5
  /-- Milliseconds of pause after the first look; the pause grows by as much after each. -/
  backoffBase : UInt64 := 10000
  deriving DecidableEq, Repr

/-- Where the daemon listens and keeps its store. -/
structure ServerSettings where
  port : UInt16 := 8420
  dataDir : String := "/var/lib/hoist"
  deriving DecidableEq, Repr

/-- The settings of the daemon. -/
structure Settings where
  jobs : JobSettings := {}
  scheduler : SchedulerSettings := {}
  engine : EngineSettings := {}
  health : HealthSettings := {}
  server : ServerSettings := {}
  deriving DecidableEq, Repr

namespace JobSettings

/-- The attempts of a deployment job: at least one, and no more than any job may have. -/
def deploymentAttempts (j : JobSettings) : UInt32 :=
  max 1 (min j.deploymentRetries (max j.maxRetries 1))

end JobSettings

namespace Settings

open Toml

/-! ## Reading -/

/-- A part of the settings as its table gives it: entries by name, or values by order. -/
inductive Source where
  | named (entries : Entries)
  | ordered (values : List Value)

/-- The value of a field, if it is given; `index` is its place among the fields. -/
def Source.value? (source : Source) (name : String) (index : Nat) : Option Value :=
  match source with
  | .named entries => entries.find? name
  | .ordered values => values[index]?

/-- How a value gives the fields of a part. A date has no fields that are known. -/
def Source.of? : Value → Option Source
  | .table _ entries => some (.named entries)
  | .array items | .tables items => some (.ordered items)
  | .datetime => some (.named [])
  | _ => none

/-- A field read by `read`, or its default if it is not given. -/
def Source.field {α : Type} (source : Source) (name : String) (index : Nat)
    (read : Value → Option α) (default : α) : Option α :=
  match source.value? name index with
  | none => some default
  | some v => read v

/-- A whole number below a limit. -/
def natBelow (limit : Nat) : Value → Option Nat
  | .integer n => if 0 ≤ n ∧ n < limit then some n.toNat else none
  | _ => none

def asUInt16 (v : Value) : Option UInt16 := (natBelow UInt16.size v).map UInt16.ofNat
def asUInt32 (v : Value) : Option UInt32 := (natBelow UInt32.size v).map UInt32.ofNat
def asUInt64 (v : Value) : Option UInt64 := (natBelow UInt64.size v).map UInt64.ofNat

def asBool : Value → Option Bool
  | .boolean b => some b
  | _ => none

def asString : Value → Option String
  | .string s => some s
  | _ => none

/-- Reads the part about jobs. -/
def readJobs (v : Value) : Option JobSettings := do
  let source ← Source.of? v
  let d : JobSettings := {}
  return {
    workers := ← source.field "workers" 0 asUInt64 d.workers
    queueCapacity := ← source.field "queue_capacity" 1 asUInt64 d.queueCapacity
    maxRetries := ← source.field "max_retries" 2 asUInt32 d.maxRetries
    deploymentRetries := ← source.field "deployment_retries" 3 asUInt32 d.deploymentRetries
    retryDelay := ← source.field "retry_delay_ms" 4 asUInt64 d.retryDelay }

/-- Reads the part about the scheduler. -/
def readScheduler (v : Value) : Option SchedulerSettings := do
  let source ← Source.of? v
  let d : SchedulerSettings := {}
  return {
    watch := ← source.field "watch" 0 asBool d.watch
    pollInterval := ← source.field "poll_interval_ms" 1 asUInt64 d.pollInterval }

/-- Reads the part about the engine. -/
def readEngine (v : Value) : Option EngineSettings := do
  let source ← Source.of? v
  let d : EngineSettings := {}
  return { network := ← source.field "network" 0 asString d.network }

/-- Reads the part about health checks. -/
def readHealth (v : Value) : Option HealthSettings := do
  let source ← Source.of? v
  let d : HealthSettings := {}
  return {
    retries := ← source.field "retries" 0 asUInt32 d.retries
    backoffBase := ← source.field "backoff_base_ms" 1 asUInt64 d.backoffBase }

/-- Reads the part about the server. -/
def readServer (v : Value) : Option ServerSettings := do
  let source ← Source.of? v
  let d : ServerSettings := {}
  return {
    port := ← source.field "port" 0 asUInt16 d.port
    dataDir := ← source.field "data_dir" 1 asString d.dataDir }

/-- Reads a document's table. -/
def ofEntries (entries : Entries) : Option Settings := do
  let source := Source.named entries
  return {
    jobs := ← source.field "jobs" 0 readJobs {}
    scheduler := ← source.field "scheduler" 1 readScheduler {}
    engine := ← source.field "docker" 2 readEngine {}
    health := ← source.field "health" 3 readHealth {}
    server := ← source.field "server" 4 readServer {} }

/-- Reads a settings file. -/
def ofToml? (text : String) : Option Settings := do
  ofEntries (← Toml.read text.toList)

/-! ## Writing -/

/-- A line that gives a key its value. -/
def line (key : String) (value : List Char) : List Char :=
  key.toList ++ [' ', '=', ' '] ++ value ++ ['\n']

/-- An integer; those above the largest signed one of 64 bits have no TOML form. -/
def integerText (n : Nat) : Option (List Char) :=
  if n < Toml.integerBound then some (Text.decimal n) else none

/-- A truth value. -/
def booleanText (b : Bool) : List Char := (if b then "true" else "false").toList

/-- A table: its header and its lines. -/
def tableText (name : String) (lines : List (List Char)) : List Char :=
  '[' :: name.toList ++ [']', '\n'] ++ lines.flatten

/-- The settings as a file, if all their numbers can be written. -/
def toToml? (s : Settings) : Option String := do
  let jobs := tableText "jobs" [
    line "workers" (← integerText s.jobs.workers.toNat),
    line "queue_capacity" (← integerText s.jobs.queueCapacity.toNat),
    line "max_retries" (← integerText s.jobs.maxRetries.toNat),
    line "deployment_retries" (← integerText s.jobs.deploymentRetries.toNat),
    line "retry_delay_ms" (← integerText s.jobs.retryDelay.toNat)]
  let scheduler := tableText "scheduler" [
    line "watch" (booleanText s.scheduler.watch),
    line "poll_interval_ms" (← integerText s.scheduler.pollInterval.toNat)]
  let engine := tableText "docker" [
    line "network" (Toml.quoted s.engine.network.toList)]
  let health := tableText "health" [
    line "retries" (← integerText s.health.retries.toNat),
    line "backoff_base_ms" (← integerText s.health.backoffBase.toNat)]
  let server := tableText "server" [
    line "port" (← integerText s.server.port.toNat),
    line "data_dir" (Toml.quoted s.server.dataDir.toList)]
  return String.ofList
    (jobs ++ '\n' :: scheduler ++ '\n' :: engine ++ '\n' :: health ++ '\n' :: server)

end Settings

end Orchestrator
