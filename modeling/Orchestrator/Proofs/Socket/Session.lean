import Orchestrator.Proofs.Event.Supply
import Orchestrator.Proofs.Socket.Patience

/-!
# The life of a socket

A `Session` is a socket from its subscription to the end of it, beside whatever goes on in the hub meanwhile:
its loop may wake up for any thing that is ready, whatever it sends may fail, and its subscription may be
taken off the map while events wait in its buffer. What reaches the client is the text of each event that the
buffer took, from the first on and in its order; when the loop ends because no event can come any more, it
is all of them (`Session.frames_faithful`).
-/
namespace Orchestrator

open Traffic

/-! ## Frames -/

/-- What a text says. -/
def ServerFrame.text? : ServerFrame → Option String
  | .text s => some s
  | _ => none

/-- The events that the loop passes on when it wakes up. -/
def Socket.Wake.events : Socket.Wake → List Event
  | .event e => [e]
  | .tick | .drained | .frame _ | .hangUp => []

namespace Socket

/-- The texts that the loop has tried to send. -/
def said (s : Socket) : List String := s.tried.filterMap fun a => a.1.text?

/-- The texts that have reached the client. -/
def heard (s : Socket) : List String := s.sent.filterMap ServerFrame.text?

/-- What the loop tries to send when it wakes up, but for the close that it ends with. -/
def offers (s : Socket) (now : Nat) : Wake → List ServerFrame
  | .tick => if s.isSilent now then [] else [.ping]
  | .event e => [.text e.wireText]
  | .frame f => if f.isMalformed then [] else if f.kind = .ping then [.pong f.payload] else []
  | .drained | .hangUp => []

theorem tried_send (s : Socket) (hopen : s.hasEnded = false) (goesThrough : Bool) (f : ServerFrame) :
    (s.send goesThrough f).tried = s.tried ++ ((f, goesThrough) ::
      if (s.send goesThrough f).hasEnded then [(.close, false)] else []) := by
  cases goesThrough <;> simp [send, finish, post, hopen]

/-- A wake has the loop try what is offered, and then a close if it ends with that. -/
theorem tried_handle (s : Socket) (now : Nat) (goesThrough : Bool) (wake : Wake) (hopen : s.hasEnded = false) :
    ∃ b, (s.handle now goesThrough wake).tried = s.tried ++ ((s.offers now wake).map (·, goesThrough) ++
      if (s.handle now goesThrough wake).hasEnded then [(.close, b)] else []) := by
  cases wake with
  | tick =>
    cases hsilent : s.isSilent now with
    | true =>
      rw [handle_tick_of_silent hsilent, offers, if_pos hsilent]
      exact ⟨goesThrough, rfl⟩
    | false =>
      rw [handle_tick_of_not_silent hsilent, offers, if_neg (Bool.eq_false_iff.1 hsilent)]
      exact ⟨false, tried_send { s with nextTick := s.nextTick + pingInterval, awaitsPong := true } hopen
        goesThrough .ping⟩
  | event e => exact ⟨false, tried_send s hopen goesThrough _⟩
  | drained => exact ⟨goesThrough, rfl⟩
  | hangUp => exact ⟨false, rfl⟩
  | frame f =>
    unfold handle receive offers
    dsimp only
    by_cases hmalformed : f.isMalformed = true
    · simp only [if_pos hmalformed]
      exact ⟨goesThrough, rfl⟩
    · simp only [if_neg hmalformed]
      refine ⟨false, ?_⟩
      cases hkind : f.kind with
      | close => rfl
      | ping | pong | text | binary | reserved => simp [post, hopen]

/-- Texts are offered for events only, and closes never. -/
theorem offers_texts (s : Socket) (now : Nat) (wake : Wake) :
    (s.offers now wake).filterMap ServerFrame.text? = wake.events.map Event.wireText ∧
    ∀ f ∈ s.offers now wake, f ≠ .close := by
  cases wake with
  | event e => exact ⟨rfl, List.forall_mem_singleton.2 nofun⟩
  | tick =>
    dsimp only [offers]
    split
    · exact ⟨rfl, nofun⟩
    · exact ⟨rfl, List.forall_mem_singleton.2 nofun⟩
  | frame x =>
    dsimp only [offers]
    split
    · exact ⟨rfl, nofun⟩
    · split
      · exact ⟨rfl, List.forall_mem_singleton.2 nofun⟩
      · exact ⟨rfl, nofun⟩
  | drained | hangUp => exact ⟨rfl, nofun⟩

theorem heard_eq (s : Socket) : s.heard = s.tried.filterMap fun a => if a.2 then a.1.text? else none := by
  unfold heard sent
  rw [List.filterMap_map, List.filterMap_filter]
  rfl

/-- A wake has the loop say the event that it is for, and that is heard if it goes through. -/
theorem said_handle (s : Socket) (now : Nat) (goesThrough : Bool) (wake : Wake) (hopen : s.hasEnded = false) :
    (s.handle now goesThrough wake).said = s.said ++ wake.events.map Event.wireText ∧
    (s.handle now goesThrough wake).heard =
      s.heard ++ if goesThrough then wake.events.map Event.wireText else [] := by
  obtain ⟨b, htried⟩ := s.tried_handle now goesThrough wake hopen
  obtain ⟨htexts, -⟩ := s.offers_texts now wake
  -- the close at the end says nothing
  have hclose (ended : Bool) (g : ServerFrame × Bool → Option String) (hg : g (.close, b) = none) :
      (if ended then [(ServerFrame.close, b)] else []).filterMap g = [] := by
    cases ended with
    | true => rw [if_pos rfl, List.filterMap_cons_none hg, List.filterMap_nil]
    | false => rfl
  rw [heard_eq, heard_eq, said, said, htried, ← htexts, List.filterMap_append, List.filterMap_append,
    List.filterMap_append, List.filterMap_append, hclose _ _ rfl, hclose _ _ (by cases b <;> rfl),
    List.append_nil, List.append_nil, List.filterMap_map, List.filterMap_map]
  refine ⟨rfl, ?_⟩
  cases goesThrough with
  | true => rfl
  | false => exact congrArg _ (List.filterMap_eq_nil_iff.2 fun _ _ => rfl)

/-- No close is tried before the loop ends, and the last thing when it ends is one. -/
theorem close_handle (s : Socket) (now : Nat) (goesThrough : Bool) (wake : Wake) (hopen : s.hasEnded = false)
    (hsilent : ∀ a ∈ s.tried, a.1 ≠ .close) :
    ((s.handle now goesThrough wake).hasEnded = false →
      ∀ a ∈ (s.handle now goesThrough wake).tried, a.1 ≠ .close) ∧
    ((s.handle now goesThrough wake).hasEnded = true →
      ∃ before b, (s.handle now goesThrough wake).tried = before ++ [(.close, b)] ∧
        ∀ a ∈ before, a.1 ≠ .close) := by
  obtain ⟨b, htried⟩ := s.tried_handle now goesThrough wake hopen
  obtain ⟨-, hoffers⟩ := s.offers_texts now wake
  have hbefore : ∀ a ∈ s.tried ++ (s.offers now wake).map (·, goesThrough), a.1 ≠ .close := by
    intro a ha
    rcases List.mem_append.1 ha with ha | ha
    · exact hsilent a ha
    · obtain ⟨f, hf, rfl⟩ := List.mem_map.1 ha
      exact hoffers f hf
  rw [htried, ← List.append_assoc]
  refine ⟨fun hended => ?_, fun hended => ⟨_, b, by rw [if_pos hended], hbefore⟩⟩
  rw [hended, if_neg Bool.false_ne_true, List.append_nil]
  exact hbefore

/-- A loop that goes on after it has woken up for an event has got it through. -/
theorem goesThrough_or_events_eq_nil (s : Socket) (now : Nat) (goesThrough : Bool) (wake : Wake)
    (hopen : (s.handle now goesThrough wake).hasEnded = false) : goesThrough = true ∨ wake.events = [] := by
  cases wake with
  | event e =>
    cases goesThrough with
    | true => exact .inl rfl
    | false => cases hopen
  | tick | drained | frame | hangUp => exact .inr rfl

/-- If all that was said was heard, then only what is said last may be lost. -/
theorem heard_handle (s : Socket) (now : Nat) (goesThrough : Bool) (wake : Wake) (hopen : s.hasEnded = false)
    (hwhole : s.heard = s.said) :
    (s.handle now goesThrough wake).heard <+: (s.handle now goesThrough wake).said ∧
    (goesThrough = true ∨ wake.events = [] →
      (s.handle now goesThrough wake).heard = (s.handle now goesThrough wake).said) := by
  obtain ⟨hsaid, hheard⟩ := s.said_handle now goesThrough wake hopen
  rw [hsaid, hheard, hwhole]
  constructor
  · cases goesThrough with
    | true => exact List.prefix_refl _
    | false => exact (List.append_nil _).symm ▸ List.prefix_append _ _
  · rintro (hgoes | hevents)
    · rw [if_pos hgoes]
    · rw [hevents, List.map_nil, ite_self]

theorem handle_keeps (s : Socket) (now : Nat) (goesThrough : Bool) (wake : Wake) :
    (s.handle now goesThrough wake).deployment = s.deployment ∧
    (s.handle now goesThrough wake).subscription = s.subscription := by
  cases wake with
  | tick =>
    cases hsilent : s.isSilent now with
    | true => rw [handle_tick_of_silent hsilent]; exact ⟨rfl, rfl⟩
    | false => rw [handle_tick_of_not_silent hsilent]; cases goesThrough <;> exact ⟨rfl, rfl⟩
  | event e => cases goesThrough <;> exact ⟨rfl, rfl⟩
  | drained | hangUp => exact ⟨rfl, rfl⟩
  | frame f =>
    unfold handle receive
    dsimp only
    split
    · exact ⟨rfl, rfl⟩
    · split <;> exact ⟨rfl, rfl⟩

end Socket

/-! ## Sessions -/

/-- How far a session has come. -/
inductive Session.Stage where
  /-- The socket's follower subscribes. -/
  | coming
  | looping
  /-- The loop is over, its close with it. -/
  | ended
  /-- A call unsubscribes the follower, whose reader has gone. -/
  | leaving (call : Nat)
  | gone
  deriving DecidableEq

/-- Is the loop still to come, or under way? -/
def Session.Stage.isOpen : Session.Stage → Bool
  | .coming | .looping => true
  | _ => false

/-- Does the session still hold the socket's buffer? -/
def Session.Stage.isReading : Session.Stage → Bool
  | .coming | .looping | .ended => true
  | .leaving _ | .gone => false

/-- A socket with all that goes on in the hub. -/
structure Session where
  traffic : Traffic
  socket : Socket
  stage : Session.Stage
  /-- What the loop has ended with. -/
  exit : Option Socket.Wake := none

/-- What a loop may wake up for, and the hub when that is taken out of the socket's buffer. -/
inductive Traffic.Wakes (t : Traffic) (d : String) (k : Nat) : Socket.Wake → Traffic → Prop
  | tick : Wakes t d k .tick t
  | event {f : Follower} {e : Event} {rest : List Event} (hf : t.hub.followers.find? k = some f)
    (hevents : f.events = e :: rest) : Wakes t d k (.event e) (t.read k f 1)
  | drained {f : Follower} (hf : t.hub.followers.find? k = some f) (hevents : f.events = [])
    (hsupply : ¬ t.IsSupplied d k) : Wakes t d k .drained t
  | frame (f : ClientFrame) : Wakes t d k (.frame f) t
  | hangUp : Wakes t d k .hangUp t

/-- The hub when what a loop wakes up for is taken out of the socket's buffer, if it is there. -/
def Traffic.wake? (t : Traffic) (d : String) (k : Nat) : Socket.Wake → Option Traffic
  | .event e => do
    let f ← t.hub.followers.find? k
    if f.events.head? = some e then some (t.read k f 1) else none
  | .drained => do
    let f ← t.hub.followers.find? k
    if f.events = [] ∧ ¬ t.IsSupplied d k then some t else none
  | .tick | .frame _ | .hangUp => some t

theorem Traffic.wakes_of_wake? {t t' : Traffic} {d : String} {k : Nat} {wake : Socket.Wake}
    (h : t.wake? d k wake = some t') : t.Wakes d k wake t' := by
  cases wake with
  | event e =>
    obtain ⟨f, hf, h⟩ := Option.bind_eq_some_iff.1 h
    split at h
    · next hhead =>
      cases h
      exact .event hf (List.eq_cons_of_mem_head? hhead)
    · cases h
  | drained =>
    obtain ⟨f, hf, h⟩ := Option.bind_eq_some_iff.1 h
    split at h
    · next hempty =>
      cases h
      exact .drained hf hempty.1 hempty.2
    · cases h
  | tick =>
    cases h
    exact .tick
  | frame f =>
    cases h
    exact .frame f
  | hangUp =>
    cases h
    exact .hangUp

/-- Only the socket's buffer changes when its loop wakes up, and it keeps its reader. -/
theorem Traffic.Wakes.keeps {t t' : Traffic} {d : String} {k : Nat} {wake : Socket.Wake}
    (hwake : t.Wakes d k wake t') (hs : t.Sound) (hreads : t.Reads k) : t'.Sound ∧ t'.Reads k ∧
      t'.hub.next = t.hub.next ∧ t'.sink = t.sink ∧ t'.joins = t.joins := by
  cases hwake with
  | event hf hevents =>
    exact ⟨hs.step (.read hf 1), hreads.insert hf (hasReader_drop 1), rfl, rfl, rfl⟩
  | tick | drained | frame | hangUp => exact ⟨hs, hreads, rfl, rfl, rfl⟩

namespace Session

variable {s s' : Session}

/-- A session that begins with its follower's subscription. -/
def opened (t : Traffic) (deployment : String) (capacity : Nat) : Session where
  traffic := t.join deployment (.channel capacity)
  socket := .opened deployment t.hub.next 0
  stage := .coming

/-- The session after its loop has woken up. -/
def turn (s : Session) (now : Nat) (goesThrough : Bool) (wake : Socket.Wake) (t : Traffic) : Session :=
  let socket := s.socket.handle now goesThrough wake
  { traffic := t
    socket := socket
    stage := if socket.hasEnded then .ended else .looping
    exit := if socket.hasEnded then some wake else none }

/-- A step of the session itself. -/
inductive Own : Session → Session → Prop
  | enter {s : Session} (now : Nat) (hstage : s.stage = .coming)
    (hregistered : Registered s.traffic.joins s.socket.deployment s.socket.subscription) :
    Own s { s with stage := .looping, socket := .opened s.socket.deployment s.socket.subscription now }
  | turn {s : Session} (now : Nat) (goesThrough : Bool) {wake : Socket.Wake} {t : Traffic}
    (hstage : s.stage = .looping)
    (hwake : s.traffic.Wakes s.socket.deployment s.socket.subscription wake t) :
    Own s (s.turn now goesThrough wake t)
  | leave {s : Session} (hstage : s.stage = .ended) :
    Own s { s with
      stage := .leaving s.traffic.leaves.length
      traffic := (s.traffic.abandon s.socket.subscription).leave s.socket.deployment s.socket.subscription }
  | part {s : Session} {c : Nat} {l : Leave} {found : Bool} (hstage : s.stage = .leaving c)
    (hl : s.traffic.leaves[c]? = some l) (htold : l.stage = .told found) : Own s { s with stage := .gone }

/-- A step of the session, or of others, who leave the socket's buffer to it. -/
inductive Step : Session → Session → Prop
  | own {s s' : Session} (h : Own s s') : Step s s'
  | other {s : Session} {t : Traffic} (h : Beside s.socket.subscription s.traffic t) :
    Step s { s with traffic := t }

/-- Any number of steps. -/
abbrev Steps : Session → Session → Prop := Relation.ReflTransGen Step

/-! ## What the hub has of a session -/

/-- The hub, its calls and its followers are as the session goes by. -/
structure Upheld (d : String) (k : Nat) (s : Session) : Prop where
  sound : s.traffic.Sound
  deployment : s.socket.deployment = d
  subscription : s.socket.subscription = k
  drawn : k < s.traffic.hub.next
  own : s.traffic.IsOwn k
  reads : s.stage.isReading = true → s.traffic.Reads k
  registered : s.stage ≠ .coming → Registered s.traffic.joins d k
  call : ∀ c, s.stage = .leaving c → ∃ l, s.traffic.leaves[c]? = some l ∧ IsFor d k s.traffic l
  gone : s.stage = .gone → Removed s.traffic.leaves d k

variable {d : String} {k : Nat} {t : Traffic}

theorem upheld_opened (ht : t.Sound) (d : String) (capacity : Nat) :
    Upheld d t.hub.next (opened t d capacity) where
  sound := ht.step (.join d (.channel capacity) nofun)
  deployment := rfl
  subscription := rfl
  drawn := Nat.lt_succ_self _
  own id := by
    show t.sink id = t.hub.next ↔ id = t.hub.next
    refine ⟨fun hid => ?_, fun hid => hid ▸ (ht.housed.fresh _ (Nat.le_refl _)).2⟩
    refine Classical.byContradiction fun hne => ?_
    rcases Nat.lt_or_gt_of_ne hne with hlt | hgt
    · exact Nat.ne_of_lt (ht.housed.sink_lt id hlt) hid
    · exact hne ((ht.housed.fresh id (Nat.le_of_lt hgt)).2.symm.trans hid)
  reads _ := ⟨Follower.channel capacity, find?_insert_self _ _, rfl⟩
  registered h := absurd rfl h
  call c h := by cases h
  gone h := by cases h

/-- The loop has ended with what it woke up for, or goes on. -/
theorem turn_cases (s : Session) (now : Nat) (goesThrough : Bool) (wake : Socket.Wake) (t : Traffic) :
    ((s.turn now goesThrough wake t).socket.hasEnded = true ∧ (s.turn now goesThrough wake t).stage = .ended ∧
      (s.turn now goesThrough wake t).exit = some wake) ∨
    ((s.turn now goesThrough wake t).socket.hasEnded = false ∧
      (s.turn now goesThrough wake t).stage = .looping ∧ (s.turn now goesThrough wake t).exit = none) := by
  unfold turn
  dsimp only
  cases (s.socket.handle now goesThrough wake).hasEnded with
  | true => exact .inl ⟨rfl, rfl, rfl⟩
  | false => exact .inr ⟨rfl, rfl, rfl⟩

/-- Others may act. -/
theorem Upheld.other (h : Upheld d k s) (hbeside : Beside k s.traffic t) :
    Upheld d k { s with traffic := t } where
  sound := h.sound.step hbeside.step
  deployment := h.deployment
  subscription := h.subscription
  drawn := Nat.lt_of_lt_of_le h.drawn (next_le_step hbeside.step)
  own := h.own.beside h.drawn hbeside
  reads hreading := hbeside.reads (h.reads hreading)
  registered hstage := registered_step (h.registered hstage) hbeside.step
  call c hstage := by
    obtain ⟨l, hl, hfor⟩ := h.call c hstage
    have hregistered := h.registered fun hcoming => by cases hstage.symm.trans hcoming
    exact leave_step h.sound hregistered hl hfor hbeside.step
  gone hstage := removed_step (h.gone hstage) hbeside.step

theorem Upheld.step (h : Upheld d k s) (hown : Own s s') : Upheld d k s' := by
  cases hown with
  | enter now hstage hregistered =>
    rw [h.deployment, h.subscription] at hregistered
    exact ⟨h.sound, h.deployment, h.subscription, h.drawn, h.own, fun _ => h.reads (by rw [hstage]; rfl),
      fun _ => hregistered, nofun, nofun⟩
  | @turn now goesThrough wake t hstage hwake =>
    rw [h.deployment, h.subscription] at hwake
    obtain ⟨hsound, hreads, hnext, hsink, hjoins⟩ := hwake.keeps h.sound (h.reads (by rw [hstage]; rfl))
    obtain ⟨hdeployment, hsubscription⟩ := Socket.handle_keeps s.socket now goesThrough wake
    have hturn := s.turn_cases now goesThrough wake t
    refine ⟨hsound, hdeployment.trans h.deployment, hsubscription.trans h.subscription, hnext ▸ h.drawn,
      fun id => ?_, fun _ => hreads, fun _ => ?_, fun c hc => ?_, fun hgone => ?_⟩
    · rw [show (s.turn now goesThrough wake t).traffic.sink = s.traffic.sink from hsink]
      exact h.own id
    · rw [show (s.turn now goesThrough wake t).traffic.joins = s.traffic.joins from hjoins]
      exact h.registered (by rw [hstage]; nofun)
    · rcases hturn with ⟨-, hturn, -⟩ | ⟨-, hturn, -⟩ <;> cases hturn.symm.trans hc
    · rcases hturn with ⟨-, hturn, -⟩ | ⟨-, hturn, -⟩ <;> cases hturn.symm.trans hgone
  | leave hstage =>
    rw [h.deployment, h.subscription]
    have habandon : Traffic.Step s.traffic (s.traffic.abandon k) := .abandon k
    have hleave : Traffic.Step (s.traffic.abandon k) ((s.traffic.abandon k).leave d k) := .leave d k
    refine ⟨(h.sound.step habandon).step hleave, h.deployment, h.subscription, ?_, h.own, nofun,
      fun _ => h.registered (by rw [hstage]; nofun), fun c hc => ?_, nofun⟩
    · exact Nat.lt_of_lt_of_le h.drawn (Nat.le_trans (next_le_step habandon) (next_le_step hleave))
    · cases hc
      exact ⟨_, List.getElem?_concat_length, rfl, rfl, fun hasked => absurd rfl hasked⟩
  | part hstage hl htold =>
    have hregistered := h.registered (by rw [hstage]; nofun)
    refine ⟨h.sound, h.deployment, h.subscription, h.drawn, h.own, nofun, fun _ => hregistered, nofun,
      fun _ => ?_⟩
    obtain ⟨l, hcall, hfor⟩ := h.call _ hstage
    cases hl.symm.trans hcall
    exact hfor.removed (by rw [htold]; nofun)

/-! ## What the client has of a session -/

/-- The texts of some events. -/
def wire (events : List Event) : List String := events.map Event.wireText

/-- The events that the socket's buffer has taken. -/
def accepted (s : Session) (k : Nat) : List Event := acceptedBy s.traffic.sink s.traffic.accepted k

/-- What the socket has tried to send is as the session goes by. -/
structure Told (d : String) (k : Nat) (s : Session) : Prop where
  going : s.stage = .looping → s.socket.hasEnded = false
  exit : s.exit = none ↔ s.stage.isOpen = true
  /-- Nothing is sent before the loop begins. -/
  fresh : s.stage = .coming → s.socket.tried = []
  taken : takenFrom s.traffic.taken k <+: s.accepted k
  said : s.socket.said = wire (takenFrom s.traffic.taken k)
  heard : s.socket.heard <+: s.socket.said
  /-- Only what was sent last may not have reached the client. -/
  whole : s.exit = none → s.socket.heard = s.socket.said
  drained : s.exit = some .drained → ¬ s.traffic.IsSupplied d k ∧ s.socket.heard = wire (s.accepted k)
  silent : s.stage.isOpen = true → ∀ a ∈ s.socket.tried, a.1 ≠ .close
  close : s.stage.isOpen = false → ∃ before b, s.socket.tried = before ++ [(.close, b)] ∧
    ∀ a ∈ before, a.1 ≠ .close

theorem takenFrom_opened (ht : t.Sound) {d : String} {capacity : Nat} :
    takenFrom (opened t d capacity).traffic.taken t.hub.next = [] := by
  rw [takenFrom, List.map_eq_nil_iff, List.filter_eq_nil_iff]
  intro a ha
  simpa using Nat.ne_of_lt (ht.housed.taken_lt a ha)

theorem told_opened (ht : t.Sound) (d : String) (capacity : Nat) :
    Told d t.hub.next (opened t d capacity) where
  going h := by cases h
  exit := ⟨fun _ => rfl, fun _ => rfl⟩
  fresh _ := rfl
  taken := by
    rw [takenFrom_opened ht]
    exact List.nil_prefix
  said := by
    rw [takenFrom_opened ht]
    rfl
  heard := List.prefix_refl _
  whole _ := rfl
  drained h := by cases h
  silent _ := nofun
  close h := by cases h

/-- A session goes on, with nothing sent and nothing read. -/
theorem Told.passes (h : Told d k s) {socket : Socket} {stage : Stage}
    (hgoing : stage = .looping → socket.hasEnded = false) (hopen : stage.isOpen = s.stage.isOpen)
    (hcoming : stage = .coming → s.stage = .coming) (htried : socket.tried = s.socket.tried)
    (htaken : takenFrom t.taken k = takenFrom s.traffic.taken k)
    (hgrows : s.accepted k <+: acceptedBy t.sink t.accepted k)
    (hsupply : s.exit = some .drained → ¬ s.traffic.IsSupplied d k →
      ¬ t.IsSupplied d k ∧ acceptedBy t.sink t.accepted k = s.accepted k) :
    Told d k { s with traffic := t, socket := socket, stage := stage } := by
  have hsaid : socket.said = s.socket.said := by rw [Socket.said, htried, Socket.said]
  have hheard : socket.heard = s.socket.heard := by rw [Socket.heard_eq, htried, Socket.heard_eq]
  exact {
    going := hgoing
    exit := hopen ▸ h.exit
    fresh := fun hstage => htried.trans (h.fresh (hcoming hstage))
    taken := htaken ▸ h.taken.trans hgrows
    said := htaken ▸ hsaid.trans h.said
    heard := hheard ▸ hsaid ▸ h.heard
    whole := fun hnone => hheard.trans ((h.whole hnone).trans hsaid.symm)
    drained := fun hexit => by
      obtain ⟨hnot, hall⟩ := h.drained hexit
      obtain ⟨hnot, hsame⟩ := hsupply hexit hnot
      exact ⟨hnot, hheard.trans (hall.trans (congrArg wire hsame.symm))⟩
    silent := fun hsilent => htried ▸ h.silent (hopen ▸ hsilent)
    close := fun hclose => htried ▸ h.close (hopen ▸ hclose) }

/-- Others may act. -/
theorem Told.other (h : Told d k s) (hupheld : Upheld d k s) (hbeside : Beside k s.traffic t) :
    Told d k { s with traffic := t } := by
  refine h.passes h.going rfl id rfl hbeside.taken
    (acceptedBy_grows hupheld.sound hupheld.own hbeside.step) fun hexit hnot => ?_
  have hregistered := hupheld.registered fun hcoming => by
    have hnone := h.exit.2 (hcoming ▸ rfl)
    cases hexit.symm.trans hnone
  exact ⟨not_supplied_step hupheld.sound hregistered hnot hbeside.step,
    acceptedBy_of_not_supplied hupheld.sound hupheld.own hnot hbeside.step⟩

/-- The loop wakes up, and sends what it takes out of the buffer. -/
theorem Told.turn (h : Told d k s) (hstage : s.stage = .looping) (now : Nat) (goesThrough : Bool)
    {wake : Socket.Wake} (htaken : takenFrom t.taken k = takenFrom s.traffic.taken k ++ wake.events)
    (haccepted : takenFrom t.taken k <+: acceptedBy t.sink t.accepted k)
    (hall : wake = .drained → ¬ t.IsSupplied d k ∧ takenFrom t.taken k = acceptedBy t.sink t.accepted k) :
    Told d k (s.turn now goesThrough wake t) := by
  have hgoing := h.going hstage
  have hisOpen : s.stage.isOpen = true := by rw [hstage]; rfl
  obtain ⟨hpassed, -⟩ := s.socket.said_handle now goesThrough wake hgoing
  obtain ⟨hheard, hwhole⟩ := s.socket.heard_handle now goesThrough wake hgoing (h.whole (h.exit.2 hisOpen))
  obtain ⟨hsilent, hclose⟩ := s.socket.close_handle now goesThrough wake hgoing (h.silent hisOpen)
  have hsaid : (s.turn now goesThrough wake t).socket.said = wire (takenFrom t.taken k) := by
    rw [htaken, wire, List.map_append, ← wire, ← h.said]
    exact hpassed
  rcases s.turn_cases now goesThrough wake t with ⟨hended, hturn, hexit⟩ | ⟨hopen, hturn, hexit⟩
  · refine ⟨fun hlooping => ?_, ?_, fun hcoming => ?_, haccepted, hsaid, hheard, fun hnone => ?_,
      fun hdrained => ?_, fun hopen => ?_, fun _ => hclose hended⟩
    · cases hturn.symm.trans hlooping
    · rw [hexit, hturn]
      exact ⟨nofun, nofun⟩
    · cases hturn.symm.trans hcoming
    · cases hexit.symm.trans hnone
    · cases Option.some.inj (hexit.symm.trans hdrained)
      obtain ⟨hsupply, hsame⟩ := hall rfl
      exact ⟨hsupply, (hwhole (.inr rfl)).trans (hsaid.trans (congrArg wire hsame))⟩
    · rw [hturn] at hopen
      cases hopen
  · refine ⟨fun _ => hopen, ?_, fun hcoming => ?_, haccepted, hsaid, hheard,
      fun _ => hwhole (s.socket.goesThrough_or_events_eq_nil now goesThrough wake hopen), fun hdrained => ?_,
      fun _ => hsilent hopen, fun hended => ?_⟩
    · rw [hexit, hturn]
      exact ⟨fun _ => rfl, fun _ => rfl⟩
    · cases hturn.symm.trans hcoming
    · cases hexit.symm.trans hdrained
    · rw [hturn] at hended
      cases hended

theorem Told.step (h : Told d k s) (hupheld : Upheld d k s) (hown : Own s s') : Told d k s' := by
  cases hown with
  | enter now hstage hregistered =>
    exact h.passes (fun _ => rfl) (by rw [hstage]; rfl) nofun (h.fresh hstage).symm rfl (List.prefix_refl _)
      fun _ hnot => ⟨hnot, rfl⟩
  | @turn now goesThrough wake t hstage hwake =>
    rw [hupheld.deployment, hupheld.subscription] at hwake
    obtain ⟨f', hf', hreader⟩ := hupheld.reads (by rw [hstage]; rfl)
    cases hwake with
    | @event f e rest hf hevents =>
      cases hf.symm.trans hf'
      have hsound := hupheld.sound.step (.read hf 1)
      refine h.turn hstage now goesThrough ?_
        ⟨_, hsound.housed.held k _ (find?_insert_self _ _) (hasReader_drop 1 hreader)⟩ nofun
      rw [takenFrom_read, if_pos rfl, hevents]
      rfl
    | drained hf hevents hsupply =>
      cases hf.symm.trans hf'
      refine h.turn hstage now goesThrough (List.append_nil _).symm h.taken fun _ => ⟨hsupply, ?_⟩
      rw [← hupheld.sound.housed.held k _ hf hreader, hevents, List.append_nil]
    | tick | frame | hangUp => exact h.turn hstage now goesThrough (List.append_nil _).symm h.taken nofun
  | leave hstage =>
    rw [hupheld.deployment, hupheld.subscription]
    refine h.passes nofun (by rw [hstage]; rfl) nofun rfl rfl (List.prefix_refl _) fun _ hnot => ⟨?_, rfl⟩
    have hregistered := hupheld.registered (by rw [hstage]; nofun)
    have habandon := not_supplied_step hupheld.sound hregistered hnot (.abandon k)
    exact not_supplied_step (hupheld.sound.step (.abandon k)) hregistered habandon (.leave d k)
  | part hstage hl htold =>
    exact h.passes nofun (by rw [hstage]; rfl) nofun rfl rfl (List.prefix_refl _) fun _ hnot => ⟨hnot, rfl⟩

/-! ## Faithful frames -/

/-- What holds of a session for a subscription `k` at any time. -/
structure Faithful (k : Nat) (s : Session) : Prop where
  /-- The socket sends texts for the first events that the buffer took, in its order. -/
  sent : s.socket.said <+: wire (s.accepted k)
  /-- The client gets the first of those. -/
  received : s.socket.heard <+: s.socket.said
  /-- As long as the loop goes on, it has all of them, and the other events are in the buffer. -/
  waiting : s.stage = .looping → ∃ f, s.traffic.hub.followers.find? k = some f ∧
    s.socket.heard ++ wire f.events = wire (s.accepted k)
  /-- A loop that ends because no event can come any more has sent all of them. -/
  drained : s.exit = some .drained → s.socket.heard = wire (s.accepted k)
  /-- A loop that has ended has something that it ended with. -/
  ended : s.exit = none ↔ s.stage.isOpen = true
  /-- No close is sent while the loop goes on; it ends with one, and nothing is sent after it. -/
  silent : s.stage.isOpen = true → ∀ a ∈ s.socket.tried, a.1 ≠ .close
  close : s.stage.isOpen = false → ∃ before goesThrough, s.socket.tried = before ++ [(.close, goesThrough)] ∧
    ∀ a ∈ before, a.1 ≠ .close
  /-- In the end the subscription is on no map. -/
  gone : s.stage = .gone → ∀ d, k ∉ s.traffic.hub.subscribers d
  /-- A step of the session touches no other subscription, and none of its deliveries. -/
  untouched : ∀ s', Own s s' → s'.traffic.hub.subscriptions = s.traffic.hub.subscriptions ∧
    s'.traffic.emissions = s.traffic.emissions ∧ s'.traffic.errands = s.traffic.errands ∧
    ∀ j, j ≠ k → s'.traffic.hub.followers.find? j = s.traffic.hub.followers.find? j
  /-- Whatever goes on in the hub is a step of others, unless it takes from the socket's buffer, closes that,
  or subscribes the follower once more. -/
  free : ∀ t, Traffic.Step s.traffic t → Step s { s with traffic := t } ∨
    (∃ f n, t = s.traffic.read k f n) ∨ t = s.traffic.abandon k ∨
    ∃ d id, s.traffic.sink id = k ∧ t = s.traffic.join d (.again id)
  /-- Another subscription goes by a call of its own. -/
  others : ∀ s', Step s s' → ∀ d, ∀ id ∈ s.traffic.hub.subscribers d, id ∉ s'.traffic.hub.subscribers d →
    ∃ (c : Nat) (l : Leave), s.traffic.leaves[c]? = some l ∧ l.deployment = d ∧ l.id = id ∧
      l.stage = .asked ∧ s'.traffic.leaves[c]? = some { l with stage := .removed }

theorem Upheld.untouched (h : Upheld d k s) (hown : Own s s') :
    s'.traffic.hub.subscriptions = s.traffic.hub.subscriptions ∧
    s'.traffic.emissions = s.traffic.emissions ∧ s'.traffic.errands = s.traffic.errands ∧
    ∀ j, j ≠ k → s'.traffic.hub.followers.find? j = s.traffic.hub.followers.find? j := by
  cases hown with
  | @turn now goesThrough wake t hstage hwake =>
    rw [h.deployment, h.subscription] at hwake
    cases hwake with
    | event hf hevents => exact ⟨rfl, rfl, rfl, fun j hj => find?_insert_of_ne hj _⟩
    | tick | drained | frame | hangUp => exact ⟨rfl, rfl, rfl, fun _ _ => rfl⟩
  | leave hstage =>
    rw [h.subscription]
    exact ⟨(s.traffic.hub.sameMap_updateFollower _ _).2, rfl, rfl,
      fun j hj => find?_updateFollower_of_ne _ _ hj⟩
  | enter | part => exact ⟨rfl, rfl, rfl, fun _ _ => rfl⟩

theorem Upheld.faithful (h : Upheld d k s) (htold : Told d k s) : Faithful k s where
  sent := htold.said ▸ htold.taken.map _
  received := htold.heard
  waiting hstage := by
    obtain ⟨f, hf, hreader⟩ := h.reads (by rw [hstage]; rfl)
    refine ⟨f, hf, ?_⟩
    rw [htold.whole (htold.exit.2 (by rw [hstage]; rfl)), htold.said, accepted,
      ← h.sound.housed.held k f hf hreader, wire, wire, wire, List.map_append]
  drained hexit := (htold.drained hexit).2
  ended := htold.exit
  silent := htold.silent
  close := htold.close
  gone hstage d' hmem := by
    have hregistered := h.registered (by rw [hstage]; nofun)
    obtain ⟨hregistered', hnot⟩ := (h.sound.kept.mem_iff d' k).1 hmem
    rw [h.sound.kept.deployment_eq hregistered' hregistered] at hnot
    exact hnot (h.gone hstage)
  untouched s' hown := h.untouched hown
  free t hstep := (beside_or h.sound hstep).imp_left fun hbeside => .other (h.subscription ▸ hbeside)
  others s' hstep d' id hid hgone := by
    cases hstep with
    | own hown =>
      refine absurd ?_ hgone
      unfold Hub.subscribers
      rw [(h.untouched hown).1]
      exact hid
    | other hbeside =>
      obtain ⟨c, l, hl, hd, hlid, hstage, hl', -⟩ := h.sound.removal hbeside.step hid hgone
      exact ⟨c, l, hl, hd, hlid, hstage, hl'⟩

/-- Whatever the loop wakes up for, whatever fails, and whatever goes on in the hub meanwhile: the frames of
a session are faithful. -/
theorem frames_faithful {t : Traffic} (ht : Traffic.Steps {} t) (d : String) (capacity : Nat) {s : Session}
    (h : Steps (opened t d capacity) s) : Faithful t.hub.next s := by
  have hsound := Sound.start.steps ht
  have hheld : Upheld d t.hub.next s ∧ Told d t.hub.next s := by
    induction h with
    | refl => exact ⟨upheld_opened hsound d capacity, told_opened hsound d capacity⟩
    | tail _ hstep ih =>
      obtain ⟨hupheld, htold⟩ := ih
      cases hstep with
      | own hown => exact ⟨hupheld.step hown, htold.step hupheld hown⟩
      | other hbeside =>
        rw [hupheld.subscription] at hbeside
        exact ⟨hupheld.other hbeside, htold.other hupheld hbeside⟩
  exact hheld.1.faithful hheld.2

/-! ## Running a session -/

/-- Who goes on. -/
inductive Move where
  /-- Others act, where nobody subscribes. -/
  | other (move : Traffic.Move)
  | enter (now : Nat)
  | wake (now : Nat) (goesThrough : Bool) (wake : Socket.Wake)
  | leave
  | part

/-- One step, if it can be taken. -/
def step? (s : Session) : Move → Option Session
  | .other move => do
    let t ← s.traffic.step? move
    if takenFrom t.taken s.socket.subscription = takenFrom s.traffic.taken s.socket.subscription ∧
        (s.traffic.Reads s.socket.subscription → t.Reads s.socket.subscription) ∧
        t.joins.length = s.traffic.joins.length then
      some { s with traffic := t }
    else none
  | .enter now =>
    if s.stage = .coming ∧ ⟨s.socket.deployment, s.socket.subscription, true⟩ ∈ s.traffic.joins then
      some { s with stage := .looping, socket := .opened s.socket.deployment s.socket.subscription now }
    else none
  | .wake now goesThrough wake => do
    let t ← s.traffic.wake? s.socket.deployment s.socket.subscription wake
    if s.stage = .looping then some (s.turn now goesThrough wake t) else none
  | .leave =>
    if s.stage = .ended then
      some { s with
        stage := .leaving s.traffic.leaves.length
        traffic := (s.traffic.abandon s.socket.subscription).leave s.socket.deployment s.socket.subscription }
    else none
  | .part =>
    match s.stage with
    | .leaving c => do
      let l ← s.traffic.leaves[c]?
      match l.stage with
      | .told _ => some { s with stage := .gone }
      | .asked | .removed | .closing => none
    | .coming | .looping | .ended | .gone => none

theorem step_of_step? {move : Move} (h : s.step? move = some s') : Step s s' := by
  cases move with
  | other move =>
    obtain ⟨t, ht, h⟩ := Option.bind_eq_some_iff.1 h
    split at h
    · next hbeside =>
      cases h
      obtain ⟨htaken, hreads, hjoins⟩ := hbeside
      have hstep := Traffic.step_of_step? ht
      exact .other ⟨hstep, htaken, hreads, fun id hid => sink_of_joins hstep hjoins ▸ hid⟩
    · cases h
  | enter now =>
    simp only [step?] at h
    split at h
    · next henters =>
      cases h
      exact .own (.enter now henters.1 henters.2)
    · cases h
  | wake now goesThrough wake =>
    obtain ⟨t, ht, h⟩ := Option.bind_eq_some_iff.1 h
    split at h
    · next hstage =>
      cases h
      exact .own (.turn now goesThrough hstage (wakes_of_wake? ht))
    · cases h
  | leave =>
    simp only [step?] at h
    split at h
    · next hstage =>
      cases h
      exact .own (.leave hstage)
    · cases h
  | part =>
    simp only [step?] at h
    split at h
    · next c hstage =>
      obtain ⟨l, hl, h⟩ := Option.bind_eq_some_iff.1 h
      split at h
      · next found htold =>
        cases h
        exact .own (.part hstage hl htold)
      all_goals cases h
    all_goals cases h

/-- The moves of a run are steps. -/
theorem steps_of_foldlM {moves : List Move} (h : moves.foldlM step? s = some s') : Steps s s' := by
  induction moves generalizing s with
  | nil =>
    cases h
    exact .refl
  | cons move moves ih =>
    obtain ⟨next, hnext, h⟩ := Option.bind_eq_some_iff.1 h
    exact .head (step_of_step? hnext) (ih h)

/-- A socket with room for one event. Two are raised; the delivery of the second to it fails, so that its
subscription is off the map before its loop has taken the first one. -/
def behind : List Move := [
  .other (.register 0), .enter 0,
  .other (.emit "api" ⟨⟨0⟩, .step, "pull-image"⟩), .other (.emit "api" ⟨⟨0⟩, .step, "create-container"⟩),
  .other (.spawn 0 0), .other (.spawn 1 0), .other (.send 0), .other (.send 1), .other (.proceed 0),
  .wake 0 true (.event ⟨⟨0⟩, .step, "pull-image"⟩), .wake 0 true .drained,
  .leave, .other (.proceed 1), .other (.proceed 0), .other (.proceed 0), .part]

/-- The client has the event that the buffer took, and a close. The subscription goes once. -/
theorem frames_faithful_behind : ∃ s, Steps (opened {} "api" 1) s ∧ Faithful 0 s ∧ s.stage = .gone ∧
    s.exit = some .drained ∧ s.traffic.leaves.map Leave.stage = [.told true, .told false] ∧
    (s.accepted 0).map Event.message = ["pull-image"] ∧ s.socket.heard = wire (s.accepted 0) ∧
    s.socket.sent = (wire (s.accepted 0)).map ServerFrame.text ++ [.close] := by
  have hrun : (behind.foldlM step? (opened {} "api" 1)).map (fun s => (s.stage, s.exit.any (· matches .drained),
      s.traffic.leaves.map Leave.stage, (s.accepted 0).map Event.message)) =
      some (.gone, true, [.told true, .told false], ["pull-image"]) := by decide
  have hsent : (behind.foldlM step? (opened {} "api" 1)).map (fun s => s.socket.sent) =
      (behind.foldlM step? (opened {} "api" 1)).map
        (fun s => (wire (s.accepted 0)).map ServerFrame.text ++ [.close]) := by rfl
  obtain ⟨s, hs, hseen⟩ := Option.map_eq_some_iff.1 hrun
  simp only [Prod.mk.injEq] at hseen
  obtain ⟨hstage, hdrained, hleaves, haccepted⟩ := hseen
  have hexit : s.exit = some .drained := by
    obtain ⟨wake, hexit, hwake⟩ := (Option.any_eq_true _ _).1 hdrained
    cases wake with
    | drained => exact hexit
    | tick | event | frame | hangUp => cases hwake
  rw [hs] at hsent
  have hfaithful := frames_faithful .refl "api" 1 (steps_of_foldlM hs)
  exact ⟨s, steps_of_foldlM hs, hfaithful, hstage, hexit, hleaves, haccepted, hfaithful.drained hexit,
    Option.some.inj hsent⟩

end Session

end Orchestrator
