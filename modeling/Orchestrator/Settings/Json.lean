import Orchestrator.Json.Basic
import Orchestrator.Settings

/-!
The JSON form of the daemon's settings: one object for each table of the settings file.
-/
namespace Orchestrator

open Orchestrator.Json

def JobSettings.toJson (s : JobSettings) : Json :=
  Json.record [
    ("workers", Json.nat s.workers.toNat),
    ("queue_capacity", Json.nat s.queueCapacity.toNat),
    ("max_retries", Json.nat s.maxRetries.toNat),
    ("deployment_retries", Json.nat s.deploymentRetries.toNat),
    ("retry_delay_ms", Json.nat s.retryDelay.toNat)]

def SchedulerSettings.toJson (s : SchedulerSettings) : Json :=
  Json.record [("watch", .bool s.watch), ("poll_interval_ms", Json.nat s.pollInterval.toNat)]

def EngineSettings.toJson (s : EngineSettings) : Json :=
  Json.record [("network", Json.text s.network)]

def HealthSettings.toJson (s : HealthSettings) : Json :=
  Json.record [("retries", Json.nat s.retries.toNat),
    ("backoff_base_ms", Json.nat s.backoffBase.toNat)]

def ServerSettings.toJson (s : ServerSettings) : Json :=
  Json.record [("port", Json.nat s.port.toNat), ("data_dir", Json.text s.dataDir)]

/-- The JSON form. -/
def Settings.toJson (s : Settings) : Json :=
  Json.record [("jobs", s.jobs.toJson), ("scheduler", s.scheduler.toJson),
    ("docker", s.engine.toJson), ("health", s.health.toJson), ("server", s.server.toJson)]

end Orchestrator
