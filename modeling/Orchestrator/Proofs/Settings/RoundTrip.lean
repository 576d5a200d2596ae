import Orchestrator.Proofs.Toml.Values
import Orchestrator.Proofs.Settings.Keys

/-!
# Settings are read back

The settings as a file are a document of five tables (`toToml?_eq_some`), and what is read from it are
the settings: `reloads`. The one thing a file cannot hold is a number above the largest signed one of 64 bits.
-/
namespace Orchestrator.Settings

open Toml

/-! ## Numbers -/

/-- A line with a number of the settings. -/
def numberRow (key : String) (n : Nat) : Row := ⟨key, Text.decimal n, .integer n⟩

def booleanRow (key : String) (b : Bool) : Row := ⟨key, booleanText b, .boolean b⟩

def textRow (key : String) (s : String) : Row := ⟨key, Toml.quoted s.toList, .string s⟩

/-- The tables of the settings as a file. -/
def blocks (s : Settings) : List Block := [
  ⟨"jobs", [
    numberRow "workers" s.jobs.workers.toNat,
    numberRow "queue_capacity" s.jobs.queueCapacity.toNat,
    numberRow "max_retries" s.jobs.maxRetries.toNat,
    numberRow "deployment_retries" s.jobs.deploymentRetries.toNat,
    numberRow "retry_delay_ms" s.jobs.retryDelay.toNat]⟩,
  ⟨"scheduler", [
    booleanRow "watch" s.scheduler.watch,
    numberRow "poll_interval_ms" s.scheduler.pollInterval.toNat]⟩,
  ⟨"docker", [textRow "network" s.engine.network]⟩,
  ⟨"health", [
    numberRow "retries" s.health.retries.toNat,
    numberRow "backoff_base_ms" s.health.backoffBase.toNat]⟩,
  ⟨"server", [
    numberRow "port" s.server.port.toNat,
    textRow "data_dir" s.server.dataDir]⟩]

/-- Do all numbers fit in a signed word of 64 bits? Those of fewer bits always do. -/
def IsWritable (s : Settings) : Prop :=
  s.jobs.workers.toNat < integerBound ∧ s.jobs.queueCapacity.toNat < integerBound ∧
    s.jobs.retryDelay.toNat < integerBound ∧ s.scheduler.pollInterval.toNat < integerBound ∧
    s.health.backoffBase.toNat < integerBound

instance (s : Settings) : Decidable s.IsWritable := inferInstanceAs (Decidable (_ ∧ _))

theorem toNat_lt_of_uint32 (n : UInt32) : n.toNat < integerBound :=
  Nat.lt_trans n.toNat_lt (by decide)

theorem toNat_lt_of_uint16 (n : UInt16) : n.toNat < integerBound :=
  Nat.lt_trans n.toNat_lt (by decide)

theorem integerText_of_lt {n : Nat} (h : n < integerBound) : integerText n = some (Text.decimal n) :=
  if_pos h

theorem integerText_of_not_lt {n : Nat} (h : ¬ n < integerBound) : integerText n = none := if_neg h

/-- Settings whose numbers fit are written as a document. -/
theorem toToml?_eq_some {s : Settings} (h : s.IsWritable) :
    s.toToml? = some (String.ofList (documentText s.blocks)) := by
  obtain ⟨hworkers, hcapacity, hdelay, hinterval, hbackoff⟩ := h
  have hretries := integerText_of_lt (toNat_lt_of_uint32 s.jobs.maxRetries)
  have hattempts := integerText_of_lt (toNat_lt_of_uint32 s.jobs.deploymentRetries)
  have hlooks := integerText_of_lt (toNat_lt_of_uint32 s.health.retries)
  have hport := integerText_of_lt (toNat_lt_of_uint16 s.server.port)
  unfold toToml?
  rw [integerText_of_lt hworkers, integerText_of_lt hcapacity, hretries, hattempts,
    integerText_of_lt hdelay, integerText_of_lt hinterval, hlooks, integerText_of_lt hbackoff, hport]
  simp [documentText, blocks, Block.chars, Row.chars, numberRow, booleanRow, textRow]

/-- Settings with a number that does not fit are not written. -/
theorem isWritable_of_toToml? {s : Settings} {text : String} (h : s.toToml? = some text) :
    s.IsWritable := by
  have fits : ∀ {n : Nat} {α : Type} {f : List Char → Option α} {a : α},
      (integerText n).bind f = some a → n < integerBound ∧ f (Text.decimal n) = some a := by
    intro n α f a h
    by_cases hn : n < integerBound
    · rw [integerText_of_lt hn] at h
      exact ⟨hn, h⟩
    · rw [integerText_of_not_lt hn] at h
      cases h
  unfold toToml? at h
  obtain ⟨hworkers, h⟩ := fits h
  obtain ⟨hcapacity, h⟩ := fits h
  obtain ⟨-, h⟩ := fits h
  obtain ⟨-, h⟩ := fits h
  obtain ⟨hdelay, h⟩ := fits h
  obtain ⟨hinterval, h⟩ := fits h
  obtain ⟨-, h⟩ := fits h
  obtain ⟨hbackoff, -⟩ := fits h
  exact ⟨hworkers, hcapacity, hdelay, hinterval, hbackoff⟩

/-! ## Reading -/

theorem isWritten_number {key : String} (hkey : IsBare key) {n : Nat} (hn : n < integerBound) :
    (numberRow key n).IsWritten := isWritten_integer hkey hn

theorem isWritten_blocks {s : Settings} (h : s.IsWritable) : ∀ b ∈ s.blocks, b.IsWritten := by
  obtain ⟨hworkers, hcapacity, hdelay, hinterval, hbackoff⟩ := h
  have h32 := toNat_lt_of_uint32
  have hport := toNat_lt_of_uint16 s.server.port
  -- the names and the keys are plain, and the keys of a table differ
  have block : ∀ {name : String} {rows : List Row}, IsBare name → (∀ r ∈ rows, r.IsWritten) →
      (rows.map Row.key).Nodup → Block.IsWritten ⟨name, rows⟩ := fun hname hrows hkeys =>
    ⟨hname, hrows, hkeys⟩
  simp only [blocks, List.forall_mem_cons]
  refine ⟨block (by decide) ?_ ?_, block (by decide) ?_ ?_, block (by decide) ?_ ?_,
    block (by decide) ?_ ?_, block (by decide) ?_ ?_, List.forall_mem_nil _⟩
  · simp only [List.forall_mem_cons]
    exact ⟨isWritten_number (by decide) hworkers, isWritten_number (by decide) hcapacity,
      isWritten_number (by decide) (h32 _), isWritten_number (by decide) (h32 _),
      isWritten_number (by decide) hdelay, List.forall_mem_nil _⟩
  · simp [numberRow]
  · simp only [List.forall_mem_cons]
    exact ⟨isWritten_boolean (by decide) _, isWritten_number (by decide) hinterval,
      List.forall_mem_nil _⟩
  · simp [numberRow, booleanRow]
  · simp only [List.forall_mem_cons]
    exact ⟨isWritten_string (by decide) _, List.forall_mem_nil _⟩
  · simp
  · simp only [List.forall_mem_cons]
    exact ⟨isWritten_number (by decide) (h32 _), isWritten_number (by decide) hbackoff,
      List.forall_mem_nil _⟩
  · simp [numberRow]
  · simp only [List.forall_mem_cons]
    exact ⟨isWritten_number (by decide) hport, isWritten_string (by decide) _,
      List.forall_mem_nil _⟩
  · simp [numberRow, textRow]

theorem natBelow_natCast {limit n : Nat} (h : n < limit) : natBelow limit (.integer n) = some n := by
  have hn : (0 : Int) ≤ n ∧ (n : Int) < limit := ⟨Int.natCast_nonneg n, Int.ofNat_lt.2 h⟩
  rw [natBelow, if_pos hn, Int.toNat_natCast]

theorem asUInt16_toNat (n : UInt16) : asUInt16 (.integer n.toNat) = some n := by
  rw [asUInt16, natBelow_natCast n.toNat_lt, Option.map_some, UInt16.ofNat_toNat]

theorem asUInt32_toNat (n : UInt32) : asUInt32 (.integer n.toNat) = some n := by
  rw [asUInt32, natBelow_natCast n.toNat_lt, Option.map_some, UInt32.ofNat_toNat]

theorem asUInt64_toNat (n : UInt64) : asUInt64 (.integer n.toNat) = some n := by
  rw [asUInt64, natBelow_natCast n.toNat_lt, Option.map_some, UInt64.ofNat_toNat]

/-- A field that is given is read, whatever its default. -/
theorem field_named {entries : Entries} {name : String} {v : Value}
    (h : entries.find? name = some v) {α : Type} (index : Nat) (read : Value → Option α)
    (default : α) : (Source.named entries).field name index read default = read v := by
  rw [Source.field, Source.value?, h]

/-- A key is read from its place in a document. -/
theorem Key.ofDocument_eq_some {k : Key} {entries keys : Entries} {origin : Origin} {v : Value}
    {a : k.Val} (htable : entries.find? k.table.1 = some (.table origin keys))
    (hkey : keys.find? k.name.1 = some v) (hread : k.read v = some a) :
    k.ofDocument entries = some a := by
  rw [ofDocument, field_named htable, ofTable, Source.of?, Option.bind_some, field_named hkey, hread]

/-- What the tables hold are the settings. -/
theorem ofEntries_blocks (s : Settings) : ofEntries (s.blocks.map Block.entry) = some s := by
  refine ofEntries_eq_some_iff.2 fun k => ?_
  cases k
  case workers => exact Key.ofDocument_eq_some rfl rfl (asUInt64_toNat _)
  case queueCapacity => exact Key.ofDocument_eq_some rfl rfl (asUInt64_toNat _)
  case maxRetries => exact Key.ofDocument_eq_some rfl rfl (asUInt32_toNat _)
  case deploymentRetries => exact Key.ofDocument_eq_some rfl rfl (asUInt32_toNat _)
  case retryDelay => exact Key.ofDocument_eq_some rfl rfl (asUInt64_toNat _)
  case watch => exact Key.ofDocument_eq_some rfl rfl rfl
  case pollInterval => exact Key.ofDocument_eq_some rfl rfl (asUInt64_toNat _)
  case network => exact Key.ofDocument_eq_some rfl rfl rfl
  case healthRetries => exact Key.ofDocument_eq_some rfl rfl (asUInt32_toNat _)
  case backoffBase => exact Key.ofDocument_eq_some rfl rfl (asUInt64_toNat _)
  case port => exact Key.ofDocument_eq_some rfl rfl (asUInt16_toNat _)
  case dataDir => exact Key.ofDocument_eq_some rfl rfl rfl

/-- The settings are read back from the file they are written to, which there is if all their numbers
fit in a signed word of 64 bits. -/
theorem reloads (s : Settings) :
    (s.toToml?.isSome ↔ s.IsWritable) ∧ ∀ text ∈ s.toToml?, ofToml? text = some s := by
  refine ⟨⟨fun h => ?_, fun h => ?_⟩, fun text htext => ?_⟩
  · obtain ⟨text, htext⟩ := Option.isSome_iff_exists.1 h
    exact isWritable_of_toToml? htext
  · rw [toToml?_eq_some h]
    rfl
  · have hwritable := isWritable_of_toToml? htext
    rw [Option.mem_def, toToml?_eq_some hwritable] at htext
    obtain rfl := Option.some.inj htext
    have hnames : (s.blocks.map Block.name).Nodup := by simp [blocks]
    have hread := read_documentText (isWritten_blocks hwritable) hnames
    rw [ofToml?, String.toList_ofList, hread, Option.bind_eq_bind, Option.bind_some, ofEntries_blocks]

/-- Names with quotes of both kinds, some of them next to the closing ones, a backslash, line ends, a
control character and a letter beyond ASCII. -/
def oddNames : Settings where
  engine := { network := "'''\"\"\"it's \\ \"é\"\n\r\x07''\"\"" }
  server := { dataDir := "'\"\"" }

/-- Such names are written, and are read back. -/
theorem reloads_oddNames : ∃ text, oddNames.toToml? = some text ∧ ofToml? text = some oddNames := by
  have hwritable : oddNames.IsWritable := by decide
  obtain ⟨text, htext⟩ := Option.isSome_iff_exists.1 ((reloads oddNames).1.2 hwritable)
  exact ⟨text, htext, (reloads oddNames).2 text htext⟩

end Orchestrator.Settings
