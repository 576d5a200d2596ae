import Orchestrator.Api.Plan
import Orchestrator.Daemon.Clock

/-!
Requests to the API. A request is served at once, but for one thing: a job that is to be queued may
have to wait for a slot, and then the request waits with it.
-/
namespace Orchestrator

/-- Where a request stands. -/
inductive Served where
  | answered (response : Http.Response)
  /-- It waits for a slot of the queue. -/
  | waiting (ticket : Ticket)
  /-- It has become a socket. -/
  | following (socket : Nat)
  | panicked

namespace Daemon

/-- Queues a job for a request. -/
def queueJob (s : Daemon) (job : Job) : Served × Daemon :=
  match s.enqueue job with
  | (_, some outcome, s) => (.answered (Api.jobAnswer outcome), s)
  | (ticket, none, s) => (.waiting ticket, s)

/-- Lists the containers of a deployment for a request. -/
def listForRequest (s : Daemon) (name : String)
    (answer : List Container → Daemon → Served × Daemon) : Served × Daemon :=
  match s.perform (Fleet.listOwned name).run with
  | (.ok containers, s) => answer containers s
  | (.error (.error e), s) => (.answered (Api.failure 502 e.message), s)
  | (.error (.panic _), s) => (.panicked, s)

/-- Carries out what answering a request takes. -/
def carryOut (s : Daemon) : Api.Plan → Served × Daemon
  | .reply response => (.answered response, s)
  | .queue .create config =>
    let (job, s) := s.newRollout config s.apiAttempts
    s.queueJob job
  | .queue .delete config =>
    let (job, s) := s.newTeardown config s.apiAttempts
    s.queueJob job
  | .tearDownOrphans name =>
    s.listForRequest name fun containers s =>
      if containers.isEmpty then (.answered Api.deploymentNotFound, s)
      else
        let (job, s) := s.newTeardown (Deployment.new name "") s.apiAttempts
        s.queueJob job
  | .containers name =>
    s.listForRequest name fun containers s =>
      (.answered (Api.success 200 (Api.shownList Container.toJson containers)), s)
  | .follow name => let (socket, s) := s.openSocket name; (.following socket, s)
  | .panic => (.panicked, s)

/-- Begins to serve a request. -/
def request (s : Daemon) (r : Http.Request) : Served × Daemon :=
  let (now, s) := s.stamp
  let (plan, store) := Api.plan now r s.store
  let (served, s) := { s with store := store }.carryOut plan
  match served with
  | .answered response =>
    (.answered (if r.method = "HEAD" then { response with body := none } else response), s)
  | served => (served, s)

/-- Where a request stands now. -/
def standing (s : Daemon) : Served → Served
  | .waiting ticket =>
    match s.outcome? ticket with
    | some outcome => .answered (Api.jobAnswer outcome)
    | none => .waiting ticket
  | served => served

end Daemon

end Orchestrator
