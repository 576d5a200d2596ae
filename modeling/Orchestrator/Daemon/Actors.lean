import Orchestrator.Daemon.Workers

/-!
Everyone who acts in the daemon on his own: producers that wait for a slot, workers, deliveries of
events, the watcher for drift, and sockets. `step?` is one step of one of them, so a run of the
daemon is a list of actors in any order.
-/
namespace Orchestrator

/-- Someone who acts on his own. -/
inductive Actor where
  /-- A producer that waits for a slot. -/
  | producer (ticket : Ticket)
  /-- A worker, by its place in the pool. -/
  | worker (index : Nat)
  /-- A delivery of an event, by its place among those under way. -/
  | delivery (index : Nat)
  /-- The watcher for drift. -/
  | watcher
  /-- A socket, by its place among the sockets. -/
  | socket (index : Nat)
  deriving DecidableEq, Repr

namespace Daemon

/-! ## Producers -/

/-- A producer comes with a job. Its job is queued at once if a slot is free; the answer is `none`
while the producer waits. -/
def enqueue (s : Daemon) (job : Job) : Ticket × Option (Except JobError Uuid) × Daemon :=
  let ticket := s.nextTicket
  let s := { s with nextTicket := ticket + 1 }
  match s.queue.enqueue ticket job with
  | (.refused e, queue) => (ticket, some (.error e), { s with queue := queue })
  | (.granted, queue) => (ticket, some (.ok job.id), { s with queue := queue.fill ticket job })
  | (.waiting, queue) =>
    (ticket, none, { s with queue := queue, producers := s.producers ++ [⟨ticket, job⟩] })

/-- A producer goes away. -/
def withdraw (s : Daemon) (ticket : Ticket) : Daemon :=
  { s with
    queue := s.queue.leave ticket
    producers := s.producers.filter fun p => p.ticket ≠ ticket
    outcomes := s.outcomes.filter fun o => o.1 ≠ ticket }

/-- What became of a producer that waited; `none` while it waits. -/
def outcome? (s : Daemon) (ticket : Ticket) : Option (Except JobError Uuid) :=
  (s.outcomes.find? fun o => o.1 = ticket).map Prod.snd

/-- A producer that has a slot puts its job into it; one that cannot get any more gives up. -/
def stepProducer (s : Daemon) (ticket : Ticket) : Option Daemon := do
  let producer ← s.producers.find? fun p => p.ticket = ticket
  let rest := s.producers.filter fun p => p.ticket ≠ ticket
  match s.queue.standing ticket with
  | .waiting => none
  | .granted =>
    some { s with
      queue := s.queue.fill ticket producer.job
      producers := rest
      outcomes := s.outcomes ++ [(ticket, .ok producer.job.id)] }
  | .refused e =>
    some { s with producers := rest, outcomes := s.outcomes ++ [(ticket, .error e)] }

/-! ## Deliveries -/

/-- A delivery is carried out. -/
def stepDelivery (s : Daemon) (i : Nat) : Option Daemon :=
  (s.hub.deliver? i).map fun hub => { s with hub := hub }

/-! ## The watcher for drift -/

/-- What the watcher does after a pass: it rests, but a panic ends it. -/
def afterPass (s : Daemon) : Except (Failure Empty) DriftReport → Watcher
  | .ok _ => .resting (s.now + s.pollInterval)
  | .error _ => .ended

/-- The watcher takes a step, if it can. It makes a pass, rests, and hears only then that it is to
end. A pass that cannot read the deployments is given up. -/
def stepWatcher (s : Daemon) : Option Daemon := do
  let watch ← s.watch
  let become (s : Daemon) (w : Watcher) : Daemon :=
    { s with watch := some { watch with state := w } }
  match watch.state with
  | .starting =>
    match s.store.deployments with
    | .error _ => some (become s (.resting (s.now + s.pollInterval)))
    | .ok deployments => some (become s (.polling (Drift.poll s.driftAttempts deployments)))
  | .polling (.done outcome) => some (become s (s.afterPass outcome))
  | .polling (.ask request next) =>
    let (answer, s) := s.serve request
    some (become s (.polling (next answer)))
  | .resting wake =>
    if watch.isShutdown then some (become s .ended)
    else if wake ≤ s.now then some (become s .starting)
    else none
  | .ended => none

/-! ## Sockets -/

/-- The events that wait for a socket. -/
def waitingEvents (s : Daemon) (socket : Socket) : List Event :=
  match s.hub.followers.find? socket.subscription with
  | none => []
  | some follower => follower.events

/-- Opens a socket that follows a deployment. -/
def openSocket (s : Daemon) (deployment : String) : Nat × Daemon :=
  let (subscription, hub) := s.hub.subscribe deployment (.channel Socket.bufferSize)
  (s.sockets.length,
    { s with hub := hub, sockets := s.sockets ++ [.opened deployment subscription s.now] })

/-- What a socket wakes up for next: events first, then the client, then a tick. -/
def nextWake? (s : Daemon) (socket : Socket) : Option Socket.Wake :=
  match s.waitingEvents socket with
  | e :: _ => some (.event e)
  | [] =>
    if !s.hub.isOpen socket.deployment socket.subscription then some .drained
    else
      match socket.incoming with
      | f :: _ => some (.frame f)
      | [] =>
        if socket.isAbandoned then some .hangUp
        else if socket.nextTick ≤ s.now then some .tick
        else none

/-- Takes away what a socket has woken up for. -/
def consume (s : Daemon) (i : Nat) (socket : Socket) : Socket.Wake → Daemon
  | .event _ => { s with hub := s.hub.updateFollower socket.subscription (Follower.drop 1) }
  | .frame _ =>
    { s with sockets := s.sockets.set i { socket with incoming := socket.incoming.drop 1 } }
  | _ => s

/-- The daemon after a socket's loop has ended: nobody reads its buffer any more. -/
def closeSocket (s : Daemon) (socket : Socket) : Daemon :=
  let hub := s.hub.updateFollower socket.subscription Follower.abandon
  { s with hub := (hub.unsubscribe socket.deployment socket.subscription).2 }

/-- A socket takes a step, if it can. -/
def stepSocket (s : Daemon) (i : Nat) : Option Daemon := do
  let socket ← s.sockets[i]?
  if socket.hasEnded then none
  else
    let wake ← s.nextWake? socket
    let s := s.consume i socket wake
    let socket := (s.sockets[i]?.getD socket).handle s.now (!socket.isAbandoned) wake
    let s := { s with sockets := s.sockets.set i socket }
    some (if socket.hasEnded then s.closeSocket socket else s)

/-! ## All of them -/

/-- One step of an actor, if it can take one. -/
def step? (s : Daemon) : Actor → Option Daemon
  | .producer ticket => s.stepProducer ticket
  | .worker i => s.stepWorker i
  | .delivery i => s.stepDelivery i
  | .watcher => s.stepWatcher
  | .socket i => s.stepSocket i

/-- The actors there are. -/
def actors (s : Daemon) : List Actor :=
  s.producers.map (fun p => .producer p.ticket)
    ++ (List.range s.workers.length).map .worker
    ++ (List.range s.hub.deliveries.length).map .delivery
    ++ [.watcher]
    ++ (List.range s.sockets.length).map .socket

end Daemon

end Orchestrator
