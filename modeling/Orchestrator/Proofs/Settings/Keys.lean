import Orchestrator.Settings

/-!
# The keys of the settings

The settings are read key by key: each has its own place in the file, its own kind of value and its own
default, and what is read for one does not depend on the others (`ofEntries_eq_some_iff`).
-/
namespace Orchestrator.Settings

open Toml

/-- A key of the settings file. -/
inductive Key where
  | workers
  | queueCapacity
  | maxRetries
  | deploymentRetries
  | retryDelay
  | watch
  | pollInterval
  | network
  | healthRetries
  | backoffBase
  | port
  | dataDir
  deriving DecidableEq

namespace Key

/-- What the key is given. -/
abbrev Val : Key → Type
  | workers | queueCapacity | retryDelay | pollInterval | backoffBase => UInt64
  | maxRetries | deploymentRetries | healthRetries => UInt32
  | port => UInt16
  | watch => Bool
  | network | dataDir => String

/-- Its value in the settings. -/
def get : (k : Key) → Settings → k.Val
  | workers, s => s.jobs.workers
  | queueCapacity, s => s.jobs.queueCapacity
  | maxRetries, s => s.jobs.maxRetries
  | deploymentRetries, s => s.jobs.deploymentRetries
  | retryDelay, s => s.jobs.retryDelay
  | watch, s => s.scheduler.watch
  | pollInterval, s => s.scheduler.pollInterval
  | network, s => s.engine.network
  | healthRetries, s => s.health.retries
  | backoffBase, s => s.health.backoffBase
  | port, s => s.server.port
  | dataDir, s => s.server.dataDir

/-- The value it has if nothing gives it one. -/
def default (k : Key) : k.Val := k.get {}

/-- The table it stands in, and that table's place in the file. -/
def table : Key → String × Nat
  | workers | queueCapacity | maxRetries | deploymentRetries | retryDelay => ("jobs", 0)
  | watch | pollInterval => ("scheduler", 1)
  | network => ("docker", 2)
  | healthRetries | backoffBase => ("health", 3)
  | port | dataDir => ("server", 4)

/-- Its name in its table, and its place there. -/
def name : Key → String × Nat
  | workers => ("workers", 0)
  | queueCapacity => ("queue_capacity", 1)
  | maxRetries => ("max_retries", 2)
  | deploymentRetries => ("deployment_retries", 3)
  | retryDelay => ("retry_delay_ms", 4)
  | watch => ("watch", 0)
  | pollInterval => ("poll_interval_ms", 1)
  | network => ("network", 0)
  | healthRetries => ("retries", 0)
  | backoffBase => ("backoff_base_ms", 1)
  | port => ("port", 0)
  | dataDir => ("data_dir", 1)

/-- Reads its value. -/
def read : (k : Key) → Value → Option k.Val
  | workers | queueCapacity | retryDelay | pollInterval | backoffBase => asUInt64
  | maxRetries | deploymentRetries | healthRetries => asUInt32
  | port => asUInt16
  | watch => asBool
  | network | dataDir => asString

/-- Reads the key from its table. -/
def ofTable (k : Key) (v : Value) : Option k.Val :=
  (Source.of? v).bind fun source => source.field k.name.1 k.name.2 k.read k.default

/-- Reads the key from a document. -/
def ofDocument (k : Key) (entries : Entries) : Option k.Val :=
  (Source.named entries).field k.table.1 k.table.2 k.ofTable k.default

/-- What a document sets the key to, if it does. -/
def written? (k : Key) (entries : Entries) : Option Value :=
  ((Source.named entries).value? k.table.1 k.table.2).bind fun table =>
    (Source.of? table).bind fun source => source.value? k.name.1 k.name.2

/-- The value that a document gives the key, if it does. -/
def inFile (k : Key) (entries : Entries) : Option k.Val := (k.written? entries).bind k.read

end Key

/-! ## Tables -/

section
variable (entries : Entries)

theorem jobs_eq : (Source.named entries).field "jobs" 0 readJobs {} = do
    return {
      workers := ← Key.ofDocument .workers entries
      queueCapacity := ← Key.ofDocument .queueCapacity entries
      maxRetries := ← Key.ofDocument .maxRetries entries
      deploymentRetries := ← Key.ofDocument .deploymentRetries entries
      retryDelay := ← Key.ofDocument .retryDelay entries } := by
  unfold Key.ofDocument Source.field Source.value?
  dsimp only [Key.table]
  cases entries.find? "jobs" with
  | none => rfl
  | some v =>
    dsimp only
    unfold readJobs Key.ofTable
    cases Source.of? v <;> rfl

theorem scheduler_eq : (Source.named entries).field "scheduler" 1 readScheduler {} = do
    return {
      watch := ← Key.ofDocument .watch entries
      pollInterval := ← Key.ofDocument .pollInterval entries } := by
  unfold Key.ofDocument Source.field Source.value?
  dsimp only [Key.table]
  cases entries.find? "scheduler" with
  | none => rfl
  | some v =>
    dsimp only
    unfold readScheduler Key.ofTable
    cases Source.of? v <;> rfl

theorem engine_eq : (Source.named entries).field "docker" 2 readEngine {} = do
    return { network := ← Key.ofDocument .network entries } := by
  unfold Key.ofDocument Source.field Source.value?
  dsimp only [Key.table]
  cases entries.find? "docker" with
  | none => rfl
  | some v =>
    dsimp only
    unfold readEngine Key.ofTable
    cases Source.of? v <;> rfl

theorem health_eq : (Source.named entries).field "health" 3 readHealth {} = do
    return {
      retries := ← Key.ofDocument .healthRetries entries
      backoffBase := ← Key.ofDocument .backoffBase entries } := by
  unfold Key.ofDocument Source.field Source.value?
  dsimp only [Key.table]
  cases entries.find? "health" with
  | none => rfl
  | some v =>
    dsimp only
    unfold readHealth Key.ofTable
    cases Source.of? v <;> rfl

theorem server_eq : (Source.named entries).field "server" 4 readServer {} = do
    return {
      port := ← Key.ofDocument .port entries
      dataDir := ← Key.ofDocument .dataDir entries } := by
  unfold Key.ofDocument Source.field Source.value?
  dsimp only [Key.table]
  cases entries.find? "server" with
  | none => rfl
  | some v =>
    dsimp only
    unfold readServer Key.ofTable
    cases Source.of? v <;> rfl

end

/-! ## Documents -/

/-- A document gives the settings that each key gives its part of. -/
theorem ofEntries_eq_some_iff {entries : Entries} {s : Settings} :
    ofEntries entries = some s ↔ ∀ k : Key, k.ofDocument entries = some (k.get s) := by
  unfold ofEntries
  dsimp only
  rw [jobs_eq, scheduler_eq, engine_eq, health_eq, server_eq]
  simp only [Option.bind_eq_bind, Option.bind_eq_some_iff, Option.pure_def, Option.some.injEq]
  constructor
  · rintro ⟨_, ⟨_, h1, _, h2, _, h3, _, h4, _, h5, rfl⟩, _, ⟨_, h6, _, h7, rfl⟩, _, ⟨_, h8, rfl⟩,
      _, ⟨_, h9, _, h10, rfl⟩, _, ⟨_, h11, _, h12, rfl⟩, rfl⟩ k
    cases k <;> assumption
  · intro h
    exact ⟨_, ⟨_, h .workers, _, h .queueCapacity, _, h .maxRetries, _, h .deploymentRetries, _,
      h .retryDelay, rfl⟩, _, ⟨_, h .watch, _, h .pollInterval, rfl⟩, _, ⟨_, h .network, rfl⟩, _,
      ⟨_, h .healthRetries, _, h .backoffBase, rfl⟩, _, ⟨_, h .port, _, h .dataDir, rfl⟩, rfl⟩

/-- A key of settings that are read has the value it is given, or else its default. -/
theorem get_eq_inFile {entries : Entries} {s : Settings} (h : ofEntries entries = some s) (k : Key) :
    k.get s = (k.inFile entries).getD k.default := by
  have hk := ofEntries_eq_some_iff.1 h k
  unfold Key.ofDocument Source.field at hk
  unfold Key.inFile Key.written?
  cases htable : (Source.named entries).value? k.table.1 k.table.2 with
  | none =>
    rw [htable] at hk
    exact (Option.some.inj hk).symm
  | some table =>
    rw [htable] at hk
    obtain ⟨source, hsource, hk⟩ := Option.bind_eq_some_iff.1 hk
    rw [Option.bind_some, hsource, Option.bind_some]
    unfold Source.field at hk
    cases hkey : source.value? k.name.1 k.name.2 with
    | none =>
      rw [hkey] at hk
      exact (Option.some.inj hk).symm
    | some v =>
      rw [hkey] at hk
      dsimp only at hk
      rw [Option.bind_some, hk, Option.getD_some]

end Orchestrator.Settings
