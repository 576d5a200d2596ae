import Mathlib.Logic.Function.Basic
import Mathlib.Logic.Relation
import Orchestrator.Event.Hub

/-!
# The hub, call by call

In a `Traffic` the calls of a hub are under way at once. Each is cut where others may act: a follower that
subscribes draws its number and is put on the map later; one that unsubscribes is taken off the map and told
to close later; an event is raised for the subscriptions of that moment, its deliveries are started one by
one in any order, and each goes on by itself, with a call of its own to unsubscribe if it fails. A call that
is dropped is one that takes no further step.

One follower may have many subscriptions. What followers are not of the hub's own kinds do with an event
is left open: they take it, refuse it, panic or never come back (`Hub.Answers`, `Step.panic`).
-/
namespace Orchestrator

namespace Traffic

/-- A call that subscribes a follower. -/
structure Join where
  deployment : String
  /-- The number it has drawn. -/
  id : Nat
  isRegistered : Bool
  deriving DecidableEq

/-- How far a call that unsubscribes has come. -/
inductive Leave.Stage where
  | asked
  /-- The subscription is off the map; its follower is not told yet. -/
  | removed
  /-- The follower was told, and has not come back. -/
  | closing
  /-- The call has told whether it found the subscription. -/
  | told (found : Bool)
  deriving DecidableEq

/-- Was the subscription found and removed? -/
def Leave.Stage.hasRemoved : Leave.Stage → Bool
  | .asked => false
  | .removed | .closing => true
  | .told found => found

/-- Was the follower told to close? -/
def Leave.Stage.hasClosed : Leave.Stage → Bool
  | .asked | .removed => false
  | .closing => true
  | .told found => found

/-- A call that unsubscribes. -/
structure Leave where
  deployment : String
  id : Nat
  /-- The number of the delivery that failed, if it makes the call. -/
  cause : Option Nat
  stage : Leave.Stage
  deriving DecidableEq

/-- An event that was raised. -/
structure Emission where
  deployment : String
  event : Event
  /-- The subscriptions of the moment it was raised. -/
  targets : List Nat
  /-- Those whose delivery is not started yet. -/
  left : List Nat

/-- The number of deliveries, which is told when all are started. -/
def Emission.answer? (m : Emission) : Option Nat :=
  if m.left.isEmpty then some m.targets.length else none

/-- How far a delivery has come. -/
inductive Errand.Stage where
  | sending
  | accepted
  /-- The follower did not take the event. -/
  | failed
  /-- The follower panicked, and the delivery with it. -/
  | panicked
  deriving DecidableEq

/-- A delivery that was started, for one of the events raised. -/
structure Errand where
  emission : Nat
  delivery : Delivery
  stage : Errand.Stage
  deriving DecidableEq

/-- The event raised and the delivery for it. -/
def Errand.key (r : Errand) : Nat × Delivery := (r.emission, r.delivery)

/-- Who subscribes. -/
inductive Guest where
  | channel (capacity : Nat)
  | counting (left : Nat)
  /-- A follower of which nothing is known. -/
  | stranger
  /-- The follower of an earlier subscription. -/
  | again (id : Nat)
  deriving DecidableEq

/-- The follower that comes with a new subscription. -/
def Guest.follower? : Guest → Option Follower
  | .channel capacity => some (Follower.channel capacity)
  | .counting left => some (.counting left [] 0 0)
  | .stranger | .again _ => none

end Traffic

open Traffic

/-- A hub with its calls and deliveries under way. The followers stand in the hub under the number they
first came with. -/
structure Traffic where
  hub : Hub := {}
  /-- The follower of each subscription. -/
  sink : Nat → Nat := fun id => id
  joins : List Join := []
  leaves : List Leave := []
  emissions : List Emission := []
  errands : List Errand := []
  /-- What followers have taken, oldest first. -/
  accepted : List (Nat × Delivery) := []
  /-- The subscriptions whose followers were told to close, oldest first. -/
  closed : List Nat := []
  /-- The events that readers took out of their followers, oldest first. -/
  taken : List (Nat × Event) := []

/-- What comes of sending an event to a follower. A follower that is not the hub's answers as it likes. -/
inductive Hub.Answers (h : Hub) (sink : Nat) (e : Event) : Except DeliveryError Unit → Hub → Prop
  | follower {f : Follower} (hf : h.followers.find? sink = some f) :
    Answers h sink e (f.send e).1 { h with followers := h.followers.insert sink (f.send e).2 }
  | stranger (hf : h.followers.find? sink = none) (answer : Except DeliveryError Unit) :
    Answers h sink e answer h

namespace Traffic

variable (t : Traffic)

/-- A follower comes and draws its number. -/
def join (deployment : String) (guest : Guest) : Traffic :=
  { t with
    hub := { t.hub with
      next := t.hub.next + 1
      followers := match guest.follower? with
        | some f => t.hub.followers.insert t.hub.next f
        | none => t.hub.followers }
    sink := match guest with
      | .again id => Function.update t.sink t.hub.next (t.sink id)
      | _ => t.sink
    joins := t.joins ++ [⟨deployment, t.hub.next, false⟩] }

/-- The follower is put on the map. -/
def register (c : Nat) (j : Join) : Traffic :=
  { t with
    hub := t.hub.setSubscribers j.deployment (t.hub.subscribers j.deployment ++ [j.id])
    joins := t.joins.set c { j with isRegistered := true } }

/-- Somebody asks to remove a subscription. -/
def leave (deployment : String) (id : Nat) : Traffic :=
  { t with leaves := t.leaves ++ [⟨deployment, id, none, .asked⟩] }

/-- A call takes a subscription off the map. -/
def remove (c : Nat) (l : Leave) : Traffic :=
  { t with
    hub := t.hub.setSubscribers l.deployment ((t.hub.subscribers l.deployment).erase l.id)
    leaves := t.leaves.set c { l with stage := .removed } }

/-- A call does not find its subscription, and ends. -/
def miss (c : Nat) (l : Leave) : Traffic :=
  { t with leaves := t.leaves.set c { l with stage := .told false } }

/-- A call tells the follower to close. -/
def close (c : Nat) (l : Leave) : Traffic :=
  { t with
    hub := t.hub.updateFollower (t.sink l.id) Follower.close
    leaves := t.leaves.set c { l with stage := .closing }
    closed := t.closed ++ [l.id] }

/-- The follower comes back, and the call ends. -/
def tell (c : Nat) (l : Leave) : Traffic :=
  { t with leaves := t.leaves.set c { l with stage := .told true } }

/-- An event is raised. -/
def emit (deployment : String) (event : Event) : Traffic :=
  { t with emissions := t.emissions ++
      [⟨deployment, event, t.hub.subscribers deployment, t.hub.subscribers deployment⟩] }

/-- One of its deliveries is started. -/
def spawn (n : Nat) (m : Emission) (id : Nat) : Traffic :=
  { t with
    emissions := t.emissions.set n { m with left := m.left.erase id }
    errands := t.errands ++ [⟨n, ⟨m.deployment, id, m.event⟩, .sending⟩] }

/-- A follower takes the event. -/
def accept (i : Nat) (r : Errand) (hub : Hub) : Traffic :=
  { t with
    hub := hub
    errands := t.errands.set i { r with stage := .accepted }
    accepted := t.accepted ++ [r.key] }

/-- A follower does not take the event; the delivery asks to remove it. -/
def fail (i : Nat) (r : Errand) (hub : Hub) : Traffic :=
  { t with
    hub := hub
    errands := t.errands.set i { r with stage := .failed }
    leaves := t.leaves ++ [⟨r.delivery.deployment, r.delivery.subscription, some i, .asked⟩] }

/-- A follower panics. -/
def panic (i : Nat) (r : Errand) : Traffic :=
  { t with errands := t.errands.set i { r with stage := .panicked } }

/-- A reader takes the oldest events of a follower. -/
def read (sink : Nat) (f : Follower) (n : Nat) : Traffic :=
  { t with
    hub := { t.hub with followers := t.hub.followers.insert sink (f.drop n) }
    taken := t.taken ++ (f.events.take n).map (sink, ·) }

/-- A reader goes away. -/
def abandon (sink : Nat) : Traffic :=
  { t with hub := t.hub.updateFollower sink Follower.abandon }

/-- One step of one of the calls, deliveries and readers. -/
inductive Step : Traffic → Traffic → Prop
  | join {t : Traffic} (deployment : String) (guest : Guest)
    (hguest : ∀ id, guest = .again id → id < t.hub.next) : Step t (t.join deployment guest)
  | register {t : Traffic} {c : Nat} {j : Join} (hj : t.joins[c]? = some j)
    (hnew : j.isRegistered = false) : Step t (t.register c j)
  | leave {t : Traffic} (deployment : String) (id : Nat) : Step t (t.leave deployment id)
  | remove {t : Traffic} {c : Nat} {l : Leave} (hl : t.leaves[c]? = some l) (hstage : l.stage = .asked)
    (hid : l.id ∈ t.hub.subscribers l.deployment) : Step t (t.remove c l)
  | miss {t : Traffic} {c : Nat} {l : Leave} (hl : t.leaves[c]? = some l) (hstage : l.stage = .asked)
    (hid : l.id ∉ t.hub.subscribers l.deployment) : Step t (t.miss c l)
  | close {t : Traffic} {c : Nat} {l : Leave} (hl : t.leaves[c]? = some l)
    (hstage : l.stage = .removed) : Step t (t.close c l)
  | tell {t : Traffic} {c : Nat} {l : Leave} (hl : t.leaves[c]? = some l)
    (hstage : l.stage = .closing) : Step t (t.tell c l)
  | emit {t : Traffic} (deployment : String) (event : Event) : Step t (t.emit deployment event)
  | spawn {t : Traffic} {n : Nat} {m : Emission} {id : Nat} (hm : t.emissions[n]? = some m)
    (hid : id ∈ m.left) : Step t (t.spawn n m id)
  | accept {t : Traffic} {i : Nat} {r : Errand} {hub : Hub} (hr : t.errands[i]? = some r)
    (hstage : r.stage = .sending)
    (hhub : t.hub.Answers (t.sink r.delivery.subscription) r.delivery.event (.ok ()) hub) :
    Step t (t.accept i r hub)
  | fail {t : Traffic} {i : Nat} {r : Errand} {hub : Hub} {e : DeliveryError}
    (hr : t.errands[i]? = some r) (hstage : r.stage = .sending)
    (hhub : t.hub.Answers (t.sink r.delivery.subscription) r.delivery.event (.error e) hub) :
    Step t (t.fail i r hub)
  | panic {t : Traffic} {i : Nat} {r : Errand} (hr : t.errands[i]? = some r)
    (hstage : r.stage = .sending)
    (hsink : t.hub.followers.find? (t.sink r.delivery.subscription) = none) : Step t (t.panic i r)
  | read {t : Traffic} {sink : Nat} {f : Follower} (hf : t.hub.followers.find? sink = some f) (n : Nat) :
    Step t (t.read sink f n)
  | abandon {t : Traffic} (sink : Nat) : Step t (t.abandon sink)

/-- Any number of steps. -/
abbrev Steps : Traffic → Traffic → Prop := Relation.ReflTransGen Step

/-! ## Steps of a hub whose followers are its own -/

/-- Who goes on. -/
inductive Move where
  | join (deployment : String) (guest : Guest)
  | register (call : Nat)
  | leave (deployment : String) (id : Nat)
  /-- A call that unsubscribes goes on. -/
  | proceed (call : Nat)
  | emit (deployment : String) (event : Event)
  | spawn (emission : Nat) (id : Nat)
  | send (errand : Nat)

/-- One step, if it can be taken. -/
def step? : Move → Option Traffic
  | .join deployment (.again id) => if id < t.hub.next then some (t.join deployment (.again id)) else none
  | .join deployment guest => some (t.join deployment guest)
  | .register c => do
    let j ← t.joins[c]?
    if j.isRegistered then none else some (t.register c j)
  | .leave deployment id => some (t.leave deployment id)
  | .proceed c => do
    let l ← t.leaves[c]?
    match l.stage with
    | .asked => if l.id ∈ t.hub.subscribers l.deployment then some (t.remove c l) else some (t.miss c l)
    | .removed => some (t.close c l)
    | .closing => some (t.tell c l)
    | .told _ => none
  | .emit deployment event => some (t.emit deployment event)
  | .spawn n id => do
    let m ← t.emissions[n]?
    if id ∈ m.left then some (t.spawn n m id) else none
  | .send i => do
    let r ← t.errands[i]?
    let f ← t.hub.followers.find? (t.sink r.delivery.subscription)
    let hub := { t.hub with
      followers := t.hub.followers.insert (t.sink r.delivery.subscription) (f.send r.delivery.event).2 }
    if r.stage = .sending then
      match (f.send r.delivery.event).1 with
      | .ok () => some (t.accept i r hub)
      | .error _ => some (t.fail i r hub)
    else none

variable {t} {t' : Traffic}

theorem step_of_step? {move : Move} (h : t.step? move = some t') : Step t t' := by
  cases move with
  | join deployment guest =>
    cases guest with
    | again id =>
      simp only [step?] at h
      split at h
      · rename_i hid
        cases h
        exact .join deployment _ fun k hk => Guest.again.inj hk ▸ hid
      · cases h
    | channel | counting | stranger =>
      cases h
      exact .join deployment _ nofun
  | register c =>
    obtain ⟨j, hj, h⟩ := Option.bind_eq_some_iff.1 h
    cases hnew : j.isRegistered with
    | true =>
      rw [hnew] at h
      cases h
    | false =>
      rw [hnew] at h
      cases h
      exact .register hj hnew
  | leave deployment id =>
    cases h
    exact .leave deployment id
  | proceed c =>
    obtain ⟨l, hl, h⟩ := Option.bind_eq_some_iff.1 h
    cases hstage : l.stage with
    | asked =>
      rw [hstage] at h
      dsimp only at h
      split at h
      · rename_i hid
        cases h
        exact .remove hl hstage hid
      · rename_i hid
        cases h
        exact .miss hl hstage hid
    | removed =>
      rw [hstage] at h
      cases h
      exact .close hl hstage
    | closing =>
      rw [hstage] at h
      cases h
      exact .tell hl hstage
    | told found =>
      rw [hstage] at h
      cases h
  | emit deployment event =>
    cases h
    exact .emit deployment event
  | spawn n id =>
    obtain ⟨m, hm, h⟩ := Option.bind_eq_some_iff.1 h
    split at h
    · rename_i hid
      cases h
      exact .spawn hm hid
    · cases h
  | send i =>
    obtain ⟨r, hr, h⟩ := Option.bind_eq_some_iff.1 h
    obtain ⟨f, hf, h⟩ := Option.bind_eq_some_iff.1 h
    have hhub := Hub.Answers.follower (e := r.delivery.event) hf
    dsimp only at h
    split at h
    · rename_i hstage
      cases hanswer : (f.send r.delivery.event).1 with
      | ok =>
        rw [hanswer] at h hhub
        cases h
        exact .accept hr hstage hhub
      | error =>
        rw [hanswer] at h hhub
        cases h
        exact .fail hr hstage hhub
    · cases h

/-- The moves of a run are steps. -/
theorem steps_of_foldlM {moves : List Move} (h : moves.foldlM step? t = some t') : Steps t t' := by
  induction moves generalizing t with
  | nil =>
    cases h
    exact .refl
  | cons move moves ih =>
    obtain ⟨next, hnext, h⟩ := Option.bind_eq_some_iff.1 h
    exact .head (step_of_step? hnext) (ih h)

end Traffic

/-! ## The map of the hub -/

namespace Hub

variable (h : Hub)

theorem subscribers_setSubscribers (deployment d : String) (ids : List Nat) :
    (h.setSubscribers deployment ids).subscribers d =
      if d = deployment then ids else h.subscribers d := by
  unfold subscribers setSubscribers
  by_cases hids : ids.isEmpty
  · rw [if_pos hids, SortedMap.find?_erase]
    by_cases hd : d = deployment
    · subst hd
      rw [if_pos Std.ReflCmp.compare_self, if_pos rfl, List.isEmpty_iff.1 hids]
      rfl
    · rw [if_neg fun h => hd (Std.LawfulEqOrd.eq_of_compare h), if_neg hd]
  · rw [if_neg hids, SortedMap.find?_insert]
    by_cases hd : d = deployment
    · subst hd
      rw [if_pos Std.ReflCmp.compare_self, if_pos rfl]
      rfl
    · rw [if_neg fun h => hd (Std.LawfulEqOrd.eq_of_compare h), if_neg hd]

/-- No deployment on the map is without subscriptions. -/
def IsTidy : Prop := ∀ deployment, h.subscriptions.find? deployment ≠ some []

variable {h}

theorem IsTidy.setSubscribers (htidy : h.IsTidy) (deployment : String) (ids : List Nat) :
    (h.setSubscribers deployment ids).IsTidy := by
  intro d
  unfold Hub.setSubscribers
  by_cases hids : ids.isEmpty
  · rw [if_pos hids, SortedMap.find?_erase]
    split
    · simp
    · exact htidy d
  · rw [if_neg hids, SortedMap.find?_insert]
    split
    · intro heq
      exact hids (List.isEmpty_iff.2 (Option.some.inj heq))
    · exact htidy d

/-- Have two hubs the same map? -/
def SameMap (h h' : Hub) : Prop := h'.next = h.next ∧ h'.subscriptions = h.subscriptions

theorem SameMap.subscribers_eq {h' : Hub} (hmap : h.SameMap h') : h'.subscribers = h.subscribers := by
  unfold subscribers
  rw [hmap.2]

theorem IsTidy.of_sameMap (htidy : h.IsTidy) {h' : Hub} (hmap : h.SameMap h') : h'.IsTidy := by
  intro d
  rw [hmap.2]
  exact htidy d

/-- Followers that change leave the map as it is. -/
theorem sameMap_updateFollower (id : Nat) (f : Follower → Follower) :
    h.SameMap (h.updateFollower id f) := by
  unfold updateFollower
  split <;> exact ⟨rfl, rfl⟩

theorem Answers.sameMap {sink : Nat} {e : Event} {answer : Except DeliveryError Unit} {hub : Hub}
    (hhub : h.Answers sink e answer hub) : h.SameMap hub := by
  cases hhub <;> exact ⟨rfl, rfl⟩

end Hub

end Orchestrator
