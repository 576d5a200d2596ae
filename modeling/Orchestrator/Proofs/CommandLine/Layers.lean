import Orchestrator.Proofs.CommandLine.Given
import Orchestrator.Proofs.Settings.RoundTrip

/-!
# What is given wins over the file

Every key of the settings has the value that its option is given, on the command line or in the
environment, or else the value in the settings file, or else its default: `load_layers`. The one exception
is the variable that turns watching off, which is passed over: a file that turns it on has its way
(`watch_stays_on`).
-/
namespace Orchestrator.CommandLine

open Settings (Key)

/-- The value that an option gives a key; some keys have no option. -/
def givenTo (text : Setting → Option String) : (k : Key) → Option k.Val
  | .workers => (text .workers).bind word64?
  | .queueCapacity => (text .queueCapacity).bind word64?
  | .deploymentRetries => (text .deploymentRetries).bind word32?
  | .retryDelay => (text .retryDelay).bind word64?
  | .watch => (text .watch).map (· = "true")
  | .pollInterval => (text .pollInterval).bind word64?
  | .network => text .network
  | .port => (text .port).bind word16?
  | .dataDir => text .dataDir
  | .maxRetries | .healthRetries | .backoffBase => none

/-- Does the settings file hold these entries? Without a file there are none. -/
def Opens (files : String → Except FileError String) : Option String → Toml.Entries → Prop
  | none, entries => entries = []
  | some path, entries => ∃ text, files path = .ok text ∧ Toml.read text.toList = some entries

variable {line : Line} {env : String → Option String} {files : String → Except FileError String}
  {entries : Toml.Entries}

/-- What is given of an option is a value of its kind. -/
theorem Line.reads_given (henv : ∀ s : Setting, ∀ text ∈ env s.envVariable, s.Reads text)
    {s : Setting} {text : String} (h : line.given env s = some text) : s.Reads text := by
  rw [← lookup_allGiven, List.lookup_eq_some_iff] at h
  obtain ⟨before, rest, heq, -⟩ := h
  have hmem : (s, text) ∈ line.allGiven env := heq ▸ List.mem_append_right _ List.mem_cons_self
  exact reads_allGiven henv _ hmem

/-! ## Over the file -/

/-- Options put what they are given over the settings; watching that is turned off is not put over
them. -/
theorem Options.get_applyTo {o : Options} {text : Setting → Option String}
    (hshows : ∀ s, o.Shows s (text s)) (base : Settings) (k : Key)
    (hwatch : k = .watch → text .watch = none ∨ text .watch = some "true") :
    k.get (o.applyTo base) = (givenTo text k).getD (k.get base) := by
  cases k with
  | workers => exact congrArg (Option.getD · _) (hshows .workers)
  | queueCapacity => exact congrArg (Option.getD · _) (hshows .queueCapacity)
  | deploymentRetries => exact congrArg (Option.getD · _) (hshows .deploymentRetries)
  | retryDelay => exact congrArg (Option.getD · _) (hshows .retryDelay)
  | watch =>
    have hshown : o.watch = decide (text .watch = some "true") := hshows .watch
    show (o.watch || base.scheduler.watch) = ((text .watch).map _).getD base.scheduler.watch
    rcases hwatch rfl with h | h <;> simp [hshown, h]
  | pollInterval => exact congrArg (Option.getD · _) (hshows .pollInterval)
  | network => exact congrArg (Option.getD · _) (hshows .network)
  | port => exact congrArg (Option.getD · _) (hshows .port)
  | dataDir => exact congrArg (Option.getD · _) (hshows .dataDir)
  | maxRetries | healthRetries | backoffBase => rfl

/-- Watching that is turned off is left to the file. -/
theorem Options.watch_applyTo {o : Options} {text : Setting → Option String}
    (hshows : ∀ s, o.Shows s (text s)) (base : Settings) (hwatch : text .watch ≠ some "true") :
    (o.applyTo base).scheduler.watch = base.scheduler.watch := by
  have hshown : o.watch = decide (text .watch = some "true") := hshows .watch
  show (o.watch || base.scheduler.watch) = _
  simp [hshown, hwatch]

/-- The settings that are loaded are those of the file with the options put over them. -/
theorem Options.load_eq {o : Options} {text : Setting → Option String}
    (hshows : ∀ s, o.Shows s (text s)) (hfile : Opens files (text .config) entries) {base : Settings}
    (hbase : Settings.ofEntries entries = some base) : o.load files = .ok (o.applyTo base) := by
  have hconfig : o.config = text .config := hshows .config
  rw [load, hconfig]
  cases hpath : text .config with
  | none =>
    rw [hpath] at hfile
    cases hfile
    cases hbase
    rfl
  | some path =>
    rw [hpath] at hfile
    obtain ⟨content, hcontent, hread⟩ := hfile
    have hsettings : Settings.ofToml? content = some base := by
      rw [Settings.ofToml?, hread]
      exact hbase
    simp only [hcontent, hsettings]

/-- A command line and variables whose values are all of their kinds, over a file that can be read, give
settings: every key has what its option is given, or else what the file gives it, or else its default,
where the variable that turns watching off does not count. -/
theorem load_layers (henv : ∀ s : Setting, ∀ text ∈ env s.envVariable, s.Reads text)
    (hfile : Opens files (line.given env .config) entries)
    (hloads : (Settings.ofEntries entries).isSome) (program : String) :
    ∃ i s, invocation env (program :: line.words) = .ok i ∧ i.command = line.command ∧
      i.options.load files = .ok s ∧
      (∀ k : Key, (k = .watch → line.given env .watch ≠ some "false") →
        k.get s = (givenTo (line.given env) k <|> k.inFile entries).getD k.default) ∧
      (line.given env .watch = some "false" →
        s.scheduler.watch = (Key.watch.inFile entries).getD Key.watch.default) := by
  obtain ⟨base, hbase⟩ := Option.isSome_iff_exists.1 hloads
  obtain ⟨i, hi, hcommand, hshows⟩ := line.invocation_shows henv program
  refine ⟨i, i.options.applyTo base, hi, hcommand, Options.load_eq hshows hfile hbase,
    fun k hwatch => ?_, fun hwatch => ?_⟩
  · have hgiven : k = .watch → line.given env .watch = none ∨ line.given env .watch = some "true" := by
      intro hk
      cases htext : line.given env .watch with
      | none => exact .inl rfl
      | some text =>
        rcases Line.reads_given henv htext with rfl | rfl
        · exact .inr rfl
        · exact absurd htext (hwatch hk)
    rw [Options.get_applyTo hshows base k hgiven, Settings.get_eq_inFile hbase k]
    cases givenTo (line.given env) k <;> rfl
  · have hoff : line.given env .watch ≠ some "true" := by
      rw [hwatch]
      decide
    rw [Options.watch_applyTo hshows base hoff]
    exact Settings.get_eq_inFile hbase .watch


/-! ## One command line -/

/-- An environment that turns watching off, and has two more variables. -/
def sparseVariables : String → Option String
  | "HOIST_WATCH" => some "false"
  | "HOIST_WORKERS" => some "4"
  | "HOIST_NETWORK" => some "edge"
  | _ => none

/-- A file that turns watching on. -/
def watchingFile (path : String) : Except FileError String :=
  if path = "hoist.toml" then .ok "[jobs]\nmax_retries = 9\n\n[scheduler]\nwatch = true\n"
  else .error .notFound

/-- The tables of the file. -/
def watchingTables : List Toml.Block := [
  ⟨"jobs", [Settings.numberRow "max_retries" 9]⟩,
  ⟨"scheduler", [Settings.booleanRow "watch" true]⟩]

theorem isWritten_watchingTables : ∀ b ∈ watchingTables, b.IsWritten := by
  simp only [watchingTables, List.forall_mem_cons]
  refine ⟨⟨by decide, ?_, by decide⟩, ⟨by decide, ?_, by decide⟩, List.forall_mem_nil _⟩
  · exact List.forall_mem_singleton.2 (Settings.isWritten_number (by decide) (by decide))
  · exact List.forall_mem_singleton.2 (Toml.isWritten_boolean (by decide) true)

theorem opens_watchingFile :
    Opens watchingFile (some "hoist.toml") (watchingTables.map Toml.Block.entry) := by
  have htext : "[jobs]\nmax_retries = 9\n\n[scheduler]\nwatch = true\n".toList
      = Toml.documentText watchingTables := by decide +kernel
  refine ⟨_, rfl, ?_⟩
  rw [htext]
  exact Toml.read_documentText isWritten_watchingTables (by decide)

/-- The file, and a number of workers. -/
def workersLine : Line where
  logJson := true
  command := .serve
  flags := [.spaced .config rfl "hoist.toml" rfl, .attached .workers rfl "8"]
  nodup := by decide
  reads := by decide

theorem reads_sparseVariables (s : Setting) : ∀ text ∈ sparseVariables s.envVariable, s.Reads text := by
  cases s <;> decide

/-- The flag wins over the variable, the variables over the defaults, and the file keeps the rest, also
the watching that a variable turns off. -/
theorem load_layers_workersLine :
    ∃ i s, invocation sparseVariables ("hoistd" :: workersLine.words) = .ok i ∧
      i.options.load watchingFile = .ok s ∧ s.jobs.workers = 8 ∧ s.engine.network = "edge" ∧
      s.jobs.maxRetries = 9 ∧ s.scheduler.watch = true := by
  have hopens : Opens watchingFile (workersLine.given sparseVariables .config)
      (watchingTables.map Toml.Block.entry) := opens_watchingFile
  obtain ⟨i, s, hi, -, hload, hkeys, hwatch⟩ :=
    load_layers reads_sparseVariables hopens (by decide +kernel) "hoistd"
  exact ⟨i, s, hi, hload, hkeys .workers nofun, hkeys .network nofun, hkeys .maxRetries nofun,
    hwatch rfl⟩

/-- The variable that turns watching off loses to the file that turns it on. -/
theorem watch_stays_on :
    givenTo (fun s => sparseVariables s.envVariable) .watch = some false ∧
      ((invocation sparseVariables ["hoistd", "serve", "--config", "hoist.toml"]).toOption.bind
        fun i => (i.options.load watchingFile).toOption).map (·.scheduler.watch) = some true := by
  decide +kernel

end Orchestrator.CommandLine
