import Orchestrator.CommandLine.Arguments
import Orchestrator.Daemon.Assembly
import Orchestrator.Proofs.Program.Overflow

/-!
# Settings that are too large

Every number that fits its field can be loaded, but not every number can be used. The daemon of some
settings cannot be put together just if its queue would have more slots than there can be, and its
attempts overflow just if the last pause of their health checks would be longer than the longest time
there is. Main statement: `build?_limits`. An option can pass the first limit, and a settings file the
second (`loads_beyond_limits`).
-/
namespace Orchestrator

theorem Queue.open?_eq_none_iff {n : Nat} : Queue.open? n = none ↔ Queue.maxCapacity < n := by
  unfold Queue.open?
  split <;> simp_all

/-- The attempts of a deployment job are at least one, and no more than any job may have. -/
theorem JobSettings.deploymentAttempts_bounds (j : JobSettings) :
    1 ≤ j.deploymentAttempts ∧ j.deploymentAttempts ≤ max 1 j.maxRetries := by
  unfold JobSettings.deploymentAttempts
  simp only [max, min]
  grind

namespace Daemon

open Executor (performWorkflow Panicked)

theorem ofSettings?_eq_none_iff {s : Settings} :
    ofSettings? s = none ↔ Queue.maxCapacity < s.jobs.queueCapacity.toNat := by
  rw [← Queue.open?_eq_none_iff, ofSettings?]
  cases Queue.open? s.jobs.queueCapacity.toNat <;> simp

/-- What the settings say of attempts is what the daemon goes by. -/
theorem ofSettings?_attempts {s : Settings} {d : Daemon} (h : ofSettings? s = some d) :
    d.fleet.health = healthPolicy s.health ∧ d.apiAttempts = s.jobs.deploymentAttempts ∧
      d.driftAttempts = s.jobs.deploymentAttempts := by
  obtain ⟨queue, -, hd⟩ := Option.bind_eq_some_iff.1 h
  cases hd
  exact ⟨rfl, rfl, rfl⟩

/-- Around a store that could be opened, the daemon of some settings can be put together unless its
queue would be too long. Its jobs have at least one attempt and no more than are allowed; and as long
as no call panics, none of its attempts does, just if the pauses of the health check have an end that
can be told. -/
theorem build?_limits {ε : Type} (opened : Except ε Store) (s : Settings) :
    (build? opened s = none ↔
      (∃ store, opened = .ok store) ∧ Queue.maxCapacity < s.jobs.queueCapacity.toNat) ∧
    ∀ d, build? opened s = some (.ok d) →
      (1 ≤ d.apiAttempts ∧ d.apiAttempts ≤ max 1 s.jobs.maxRetries ∧ d.driftAttempts = d.apiAttempts) ∧
      ((∀ j t r, (performWorkflow d.fleet j).Follows t (.done r) → t.panics = [] → ¬ Panicked r.1) ↔
        s.health.backoffBase.toNat * (s.health.retries.toNat - 1) ≤ Fleet.maxPause) := by
  cases opened with
  | error e => exact ⟨⟨nofun, fun ⟨⟨_, h⟩, _⟩ => nomatch h⟩, fun _ hd => nomatch hd⟩
  | ok store =>
    refine ⟨?_, fun d hd => ?_⟩
    · rw [← ofSettings?_eq_none_iff]
      simp [build?]
    · obtain ⟨d', hd', heq⟩ := Option.map_eq_some_iff.1 hd
      obtain rfl := Except.ok.inj heq
      obtain ⟨hhealth, hapi, hdrift⟩ := ofSettings?_attempts hd'
      obtain ⟨hone, hmost⟩ := s.jobs.deploymentAttempts_bounds
      refine ⟨⟨hapi ▸ hone, hapi ▸ hmost, hdrift.trans hapi.symm⟩, ?_⟩
      have hiff := Executor.never_panics_iff d'.fleet
      rw [hhealth] at hiff
      exact hiff

/-- The settings by default can be used: jobs have three attempts, and none panics by itself. -/
theorem build?_limits_default :
    ∃ d, build? (.ok .new : Except Empty Store) {} = some (.ok d) ∧ d.apiAttempts ≤ 5 ∧
      ∀ j t r, (performWorkflow d.fleet j).Follows t (.done r) → t.panics = [] → ¬ Panicked r.1 := by
  obtain ⟨hbuilt, huse⟩ := build?_limits (.ok .new : Except Empty Store) {}
  cases hd : build? (.ok .new : Except Empty Store) {} with
  | none => exact absurd (hbuilt.1 hd).2 (by decide)
  | some r =>
    rcases r with ⟨⟨⟩⟩ | d
    obtain ⟨⟨-, hmost, -⟩, hiff⟩ := huse d hd
    exact ⟨d, rfl, hmost, hiff.2 (by decide)⟩

/-! ## Loaded all the same -/

/-- A queue of one slot more than there can be. -/
def longQueue : Settings := { jobs.queueCapacity := 2305843009213693952 }

/-- Pauses that grow beyond the longest time. -/
def longPauses : Settings := { health := ⟨4294967295, 9223372036854775807⟩ }

/-- A settings file that asks for them. -/
def longPausesFile : String := "[health]\nretries = 4294967295\nbackoff_base_ms = 9223372036854775807\n"

open CommandLine (invocation)

theorem loads_of_eq_some (args : List String) (file : Except CommandLine.FileError String) (s : Settings)
    (h : ((invocation (fun _ => none) args).toOption.bind fun i =>
      (i.options.load fun _ => file).toOption) = some s) :
    ∃ i, invocation (fun _ => none) args = .ok i ∧ i.options.load (fun _ => file) = .ok s := by
  cases hi : invocation (fun _ => none) args with
  | error e => simp [hi, Except.toOption] at h
  | ok i =>
    refine ⟨i, rfl, ?_⟩
    cases hs : i.options.load fun _ => file with
    | error e => simp [hi, hs, Except.toOption] at h
    | ok s' =>
      rw [hi] at h
      simp only [Except.toOption, Option.bind_some, hs] at h
      exact congrArg Except.ok (Option.some.inj h)

/-- An option gives a queue that is too long, and putting the daemon together panics, whatever its
store holds. A settings file gives pauses that are too long, and an attempt panics though no call does. -/
theorem loads_beyond_limits :
    (∃ i, invocation (fun _ => none) ["hoistd", "serve", "--queue-capacity", "2305843009213693952"] = .ok i ∧
      i.options.load (fun _ => .error .notFound) = .ok longQueue ∧
      ∀ store : Store, build? (.ok store : Except Empty Store) longQueue = none) ∧
    (∃ i, invocation (fun _ => none) ["hoistd", "serve", "--config", "hoist.toml"] = .ok i ∧
      i.options.load (fun _ => .ok longPausesFile) = .ok longPauses ∧
      ∀ store : Store, ∃ d, build? (.ok store : Except Empty Store) longPauses = some (.ok d) ∧
        ∃ j t r, (performWorkflow d.fleet j).Follows t (.done r) ∧ t.panics = [] ∧ Panicked r.1) := by
  constructor
  · obtain ⟨i, hi, hload⟩ := loads_of_eq_some ["hoistd", "serve", "--queue-capacity",
      "2305843009213693952"] (.error .notFound) longQueue (by decide +kernel)
    have hnone : ofSettings? longQueue = none := ofSettings?_eq_none_iff.2 (by decide)
    exact ⟨i, hi, hload, fun store => by rw [build?, hnone, Option.map_none]⟩
  · obtain ⟨i, hi, hload⟩ := loads_of_eq_some ["hoistd", "serve", "--config", "hoist.toml"]
      (.ok longPausesFile) longPauses (by decide +kernel)
    refine ⟨i, hi, hload, fun store => ?_⟩
    cases hd : ofSettings? longPauses with
    | none => exact absurd (ofSettings?_eq_none_iff.1 hd) (by decide)
    | some d =>
      refine ⟨{ d with store := store }, by rw [build?, hd, Option.map_some], Executor.exists_panicked ?_⟩
      rw [show d.fleet.health = _ from (ofSettings?_attempts hd).1]
      decide

end Daemon

end Orchestrator
