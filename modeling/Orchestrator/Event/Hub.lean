import Orchestrator.Event.Basic
import Orchestrator.SortedMap

/-!
Followers of deployments and the delivery of events to them. Raising an event starts one delivery
for each follower of the deployment at that moment; a delivery is carried out later, on its own. A
follower that a delivery fails for is removed, and closed once.
-/
namespace Orchestrator

/-- Why a delivery fails. -/
inductive DeliveryError where
  /-- The follower's buffer is full. -/
  | full
  /-- Nobody reads the follower's buffer. -/
  | closed
  /-- The follower takes no more events. -/
  | refused
  deriving DecidableEq, Repr

def DeliveryError.message : DeliveryError → String
  | .full => "delivery failed: subscriber buffer full"
  | .closed => "subscriber closed"
  | .refused => "delivery failed: refused"

/-- A follower. -/
inductive Follower where
  /-- Keeps events in a buffer of limited size until they are read. -/
  | buffer (capacity : Nat) (events : List Event) (isRead : Bool)
  /-- Takes a number of events and refuses all after them, and counts what it is asked. -/
  | counting (left : Nat) (events : List Event) (sends closes : Nat)
  deriving DecidableEq, Inhabited

namespace Follower

/-- A follower with an empty buffer for at least one event. -/
def channel (capacity : Nat) : Follower := .buffer (max capacity 1) [] true

/-- Sends an event to a follower. -/
def send : Follower → Event → Except DeliveryError Unit × Follower
  | .buffer capacity events isRead, e =>
    if !isRead then (.error .closed, .buffer capacity events isRead)
    else if events.length ≥ capacity then (.error .full, .buffer capacity events isRead)
    else (.ok (), .buffer capacity (events ++ [e]) isRead)
  | .counting left events sends closes, e =>
    match left with
    | 0 => (.error .refused, .counting 0 events (sends + 1) closes)
    | left + 1 => (.ok (), .counting left (events ++ [e]) (sends + 1) closes)

/-- Tells a follower that it was removed. -/
def close : Follower → Follower
  | .counting left events sends closes => .counting left events sends (closes + 1)
  | f => f

/-- The events that were delivered and not read yet, oldest first. -/
def events : Follower → List Event
  | .buffer _ events _ => events
  | .counting _ events _ _ => events

/-- The follower after its oldest events were read. -/
def drop (n : Nat) : Follower → Follower
  | .buffer capacity events isRead => .buffer capacity (events.drop n) isRead
  | .counting left events sends closes => .counting left (events.drop n) sends closes

/-- The follower whose reader has gone, with all that it had not read. -/
def abandon : Follower → Follower
  | .buffer capacity _ _ => .buffer capacity [] false
  | f => f

end Follower

/-- An event on its way to a follower. -/
structure Delivery where
  deployment : String
  subscription : Nat
  event : Event
  deriving DecidableEq

/-- The followers of deployments. -/
structure Hub where
  /-- The next subscription's number. -/
  next : Nat := 0
  /-- The subscriptions of each deployment that has any. -/
  subscriptions : SortedMap String (List Nat) := ∅
  /-- Every follower there ever was, by its subscription's number. -/
  followers : SortedMap Nat Follower := ∅
  /-- The deliveries that were not carried out yet, oldest first. -/
  deliveries : List Delivery := []

namespace Hub

instance : Inhabited Hub := ⟨{}⟩

/-- The subscriptions of a deployment. -/
def subscribers (h : Hub) (deployment : String) : List Nat :=
  (h.subscriptions.find? deployment).getD []

/-- The hub with the subscriptions of a deployment replaced; empty ones are not kept. -/
def setSubscribers (h : Hub) (deployment : String) (ids : List Nat) : Hub :=
  { h with subscriptions :=
      if ids.isEmpty then h.subscriptions.erase deployment
      else h.subscriptions.insert deployment ids }

/-- Changes a follower. -/
def updateFollower (h : Hub) (id : Nat) (f : Follower → Follower) : Hub :=
  match h.followers.find? id with
  | none => h
  | some follower => { h with followers := h.followers.insert id (f follower) }

/-- A follower subscribes to a deployment. -/
def subscribe (h : Hub) (deployment : String) (follower : Follower) : Nat × Hub :=
  let h' := h.setSubscribers deployment (h.subscribers deployment ++ [h.next])
  (h.next, { h' with next := h.next + 1, followers := h.followers.insert h.next follower })

/-- Removes and closes a subscription, and tells whether there was one. -/
def unsubscribe (h : Hub) (deployment : String) (id : Nat) : Bool × Hub :=
  if id ∈ h.subscribers deployment then
    (true,
      (h.setSubscribers deployment ((h.subscribers deployment).erase id)).updateFollower id
        Follower.close)
  else (false, h)

/-- Raises an event: starts a delivery to each follower of the deployment, and tells how many. -/
def emit (h : Hub) (deployment : String) (event : Event) : Nat × Hub :=
  let ids := h.subscribers deployment
  (ids.length,
    { h with deliveries := h.deliveries ++ ids.map fun id => ⟨deployment, id, event⟩ })

/-- Carries out a delivery; a follower it fails for is removed. -/
def carryOut (h : Hub) (d : Delivery) : Hub :=
  match h.followers.find? d.subscription with
  | none => h
  | some follower =>
    let (outcome, follower) := follower.send d.event
    let h := { h with followers := h.followers.insert d.subscription follower }
    match outcome with
    | .ok () => h
    | .error _ => (h.unsubscribe d.deployment d.subscription).2

/-- Carries out one of the deliveries; 0 is the oldest. -/
def deliver? (h : Hub) (i : Nat) : Option Hub :=
  h.deliveries[i]?.map fun d => carryOut { h with deliveries := h.deliveries.eraseIdx i } d

/-- Can events still reach a subscription's follower? -/
def isOpen (h : Hub) (deployment : String) (id : Nat) : Bool :=
  id ∈ h.subscribers deployment || h.deliveries.any fun d => d.subscription = id

end Hub

end Orchestrator
