import Orchestrator.CommandLine.FileTree
import Orchestrator.Engine.Remote.Client
import Orchestrator.Job.Json
import Orchestrator.Main
import Orchestrator.Settings.Json
import Orchestrator.Store.Access
import Orchestrator.Store.Database
import Orchestrator.Proofs.Program.Setting
import Orchestrator.Proofs.Program.Trace
import Orchestrator.Proofs.Rollout.Handover
import Orchestrator.Proofs.Engine.Owned
import Orchestrator.Proofs.Daemon.Shared
import Orchestrator.Proofs.Daemon.Calls
import Orchestrator.Proofs.Daemon.Creation
import Orchestrator.Proofs.Rollout.Attempt
import Orchestrator.Proofs.Teardown.Attempt
import Orchestrator.Proofs.Daemon.Steps
import Orchestrator.Proofs.Rollout.Convergence
import Orchestrator.Proofs.Daemon.History
import Orchestrator.Proofs.Daemon.Locking
import Orchestrator.Proofs.Daemon.Order
import Orchestrator.Proofs.Daemon.Alone
import Orchestrator.Proofs.Daemon.Serial
import Orchestrator.Proofs.Program.Aloof
import Orchestrator.Proofs.Daemon.Custody
import Orchestrator.Proofs.Scene.Basic
import Orchestrator.Proofs.Scene.Changes
import Orchestrator.Proofs.Scene.Ledger
import Orchestrator.Proofs.Scene.Stopping
import Orchestrator.Proofs.Scene.Conservation
import Orchestrator.Proofs.Scene.Accounting
import Orchestrator.Proofs.Scene.Drift
import Orchestrator.Proofs.Scene.Undisturbed
import Orchestrator.Proofs.Json.RoundTrip
import Orchestrator.Proofs.Json.Records
import Orchestrator.Proofs.Instant.Calendar
import Orchestrator.Proofs.Text.Decimal
import Orchestrator.Proofs.Instant.Written
import Orchestrator.Proofs.Instant.Order
import Orchestrator.Proofs.Store.Records
import Orchestrator.Proofs.Store.Activity
import Orchestrator.Proofs.Store.Reported
import Orchestrator.Proofs.Json.Jobs
import Orchestrator.Proofs.Api.Answers
import Orchestrator.Proofs.Drift.Flight
import Orchestrator.Proofs.Drift.Round
import Orchestrator.Proofs.Drift.Repair
import Orchestrator.Proofs.Store.Saved
import Orchestrator.Proofs.Store.Scopes
import Orchestrator.Proofs.Api.Refusals
import Orchestrator.Proofs.Engine.Bare
import Orchestrator.Proofs.Program.Discreet
import Orchestrator.Proofs.Store.Veiled
import Orchestrator.Proofs.Daemon.Alike
import Orchestrator.Proofs.Api.Confidential
import Orchestrator.Proofs.Daemon.Adverse
import Orchestrator.Proofs.Daemon.Fair
import Orchestrator.Proofs.Daemon.Contained
import Orchestrator.Proofs.Fleet.Crowd
import Orchestrator.Proofs.Fleet.Gathering
import Orchestrator.Proofs.Toml.Strings
import Orchestrator.Proofs.Toml.Lines
import Orchestrator.Proofs.Toml.Values
import Orchestrator.Proofs.Settings.Keys
import Orchestrator.Proofs.Settings.RoundTrip
import Orchestrator.Proofs.CommandLine.Flags
import Orchestrator.Proofs.CommandLine.Given
import Orchestrator.Proofs.CommandLine.Layers
import Orchestrator.Proofs.Event.Traffic
import Orchestrator.Proofs.Event.Register
import Orchestrator.Proofs.Event.Posting
import Orchestrator.Proofs.Event.Causes
import Orchestrator.Proofs.Event.Followers
import Orchestrator.Proofs.Event.FanOut
import Orchestrator.Proofs.Event.Undisturbed
import Orchestrator.Proofs.Socket.Patience
import Orchestrator.Proofs.Program.Kinds
import Orchestrator.Proofs.Program.Memoryless
import Orchestrator.Proofs.Program.Overflow
import Orchestrator.Proofs.Settings.Limits
import Orchestrator.Proofs.Teardown.Beset
import Orchestrator.Proofs.Daemon.Deeds
import Orchestrator.Proofs.Daemon.Bookkeeping
import Orchestrator.Proofs.Program.Yields
import Orchestrator.Proofs.Fleet.Health
import Orchestrator.Proofs.Workflow.Abort
import Orchestrator.Proofs.Drift.Classification
import Orchestrator.Proofs.Fleet.Environment
import Orchestrator.Proofs.SortedMap.Listed
import Orchestrator.Proofs.Naming.Grammar
import Orchestrator.Proofs.Deployment.Routing
import Orchestrator.Proofs.Fleet.Distinct
import Orchestrator.Proofs.Fleet.Variables
import Orchestrator.Proofs.Engine.Reports
import Orchestrator.Proofs.Text.Marks
import Orchestrator.Proofs.Deployment.References
import Orchestrator.Proofs.Naming.Accepted
import Orchestrator.Proofs.Engine.Exchanges
import Orchestrator.Proofs.Teardown.Remote
import Orchestrator.Proofs.Socket.Undisturbed
