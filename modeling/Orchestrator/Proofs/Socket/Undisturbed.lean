import Orchestrator.Daemon.Actors
import Orchestrator.Proofs.Event.Undisturbed
import Orchestrator.Proofs.Socket.Session

/-!
# Sockets that nobody disturbs

What the daemon does for a socket in one operation is steps of a session that nobody disturbs: its opening
(`Session.undisturbed_open`) and each step of its loop, with the close, the end of the buffer and the call
that unsubscribes when the loop ends with it (`Session.undisturbed_step`).
-/
namespace Orchestrator

open Traffic

/-! ## What a session does not see -/

/-- The hub without the deliveries under way. -/
def Hub.quiet (h : Hub) : Hub := { h with deliveries := [] }

namespace Hub

variable {h h' : Hub}

theorem quiet_updateFollower (h : Hub) (k : Nat) (g : Follower → Follower) :
    (h.updateFollower k g).quiet = h.quiet.updateFollower k g := by
  unfold updateFollower quiet
  dsimp only
  cases h.followers.find? k <;> rfl

theorem quiet_unsubscribe (h : Hub) (d : String) (id : Nat) :
    (h.unsubscribe d id).2.quiet = (h.quiet.unsubscribe d id).2 := by
  have hsubscribers : h.quiet.subscribers d = h.subscribers d := rfl
  unfold unsubscribe
  rw [hsubscribers]
  split
  · exact quiet_updateFollower _ _ _
  · rfl

theorem of_quiet (hquiet : h.quiet = h'.quiet) :
    h.next = h'.next ∧ h.subscriptions = h'.subscriptions ∧ h.followers = h'.followers := by
  simpa only [quiet, mk.injEq, and_true] using hquiet

end Hub

/-- The socket without what its client did and its loop has not seen. -/
def Socket.bare (s : Socket) : Socket := { s with incoming := [], isAbandoned := false }

theorem Socket.of_bare {a b : Socket} (h : a.bare = b.bare) : a.deployment = b.deployment ∧
    a.subscription = b.subscription ∧ a.hasEnded = b.hasEnded := by
  simp only [bare, Socket.mk.injEq] at h
  obtain ⟨hdeployment, hsubscription, -, -, -, -, -, -, hended⟩ := h
  exact ⟨hdeployment, hsubscription, hended⟩

theorem Socket.bare_handle (s : Socket) (now : Nat) (goesThrough : Bool) (wake : Wake) :
    (s.handle now goesThrough wake).bare = s.bare.handle now goesThrough wake := by
  cases wake with
  | tick =>
    have hbare : s.bare.isSilent now = s.isSilent now := rfl
    cases hsilent : s.isSilent now with
    | true => rw [handle_tick_of_silent hsilent, handle_tick_of_silent (hbare.trans hsilent)]; rfl
    | false =>
      rw [handle_tick_of_not_silent hsilent, handle_tick_of_not_silent (hbare.trans hsilent)]
      cases goesThrough <;> rfl
  | event e => cases goesThrough <;> rfl
  | drained | hangUp => rfl
  | frame f =>
    unfold handle receive
    dsimp only
    split
    · rfl
    · split <;> rfl

namespace Session

variable {s : Session} {d : String} {k : Nat}

/-- Others act one after the other. -/
theorem steps_others {t : Traffic} (h : Besides s.socket.subscription s.traffic t) :
    Steps s { s with traffic := t } := by
  induction h with
  | refl => exact .refl
  | tail _ hbeside ih => exact ih.tail (.other hbeside)

/-! ## Sockets of a daemon -/

/-- A session stands where a socket of a daemon does. -/
structure Hosted (daemon : Daemon) (socket : Socket) (s : Session) : Prop where
  stage : s.stage = .looping
  upheld : Upheld socket.deployment socket.subscription s
  going : socket.hasEnded = false
  /-- What they have sent is the same, too. -/
  alike : s.socket.bare = socket.bare
  hub : s.traffic.hub.quiet = daemon.hub.quiet
  /-- Deliveries that are under way to the socket are the daemon's. -/
  supply : s.traffic.IsSupplied socket.deployment socket.subscription →
    daemon.hub.isOpen socket.deployment socket.subscription = true

variable {daemon daemon' : Daemon} {socket : Socket} {wake : Socket.Wake} {i : Nat}

/-- A socket that the daemon opens has a session, whose follower is put on the map at once. -/
theorem undisturbed_open {t : Traffic} (ht : t.Sound) (hhub : t.hub.quiet = daemon.hub.quiet) (d : String) :
    ∃ s socket, Steps (opened t d Socket.bufferSize) s ∧
      (daemon.openSocket d).2.sockets[(daemon.openSocket d).1]? = some socket ∧
      Hosted (daemon.openSocket d).2 socket s := by
  let joined := t.join d (.channel Socket.bufferSize)
  let listed := joined.register t.joins.length ⟨d, t.hub.next, false⟩
  have hlisted : Beside t.hub.next joined listed :=
    ⟨.register List.getElem?_concat_length rfl, rfl, fun h => h, fun _ h => h⟩
  have hregistered : Registered listed.joins d t.hub.next := by
    show ⟨d, t.hub.next, true⟩ ∈ (t.joins ++ [_]).set t.joins.length _
    rw [set_concat]
    exact List.mem_concat_self
  let waiting : Session := { opened t d Socket.bufferSize with traffic := listed }
  let looping : Session := { waiting with
    stage := .looping, socket := .opened d t.hub.next daemon.now }
  have henter : Own waiting looping := .enter daemon.now rfl hregistered
  have hupheld : Upheld d t.hub.next looping := ((upheld_opened ht d _).other hlisted).step henter
  have hsubscribe : listed.hub.quiet = (t.hub.quiet.subscribe d (.channel Socket.bufferSize)).2 := rfl
  obtain ⟨hnext, -, -⟩ := Hub.of_quiet hhub
  refine ⟨looping, .opened d t.hub.next daemon.now, .tail (.tail .refl (.other hlisted)) (.own henter), ?_,
    rfl, hupheld, rfl, rfl, ?_, fun _ => ?_⟩
  · rw [hnext]
    exact List.getElem?_concat_length
  · show listed.hub.quiet = _
    rw [hsubscribe, hhub]
    rfl
  · have hmem : daemon.hub.next ∈ (daemon.hub.subscribe d (.channel Socket.bufferSize)).2.subscribers d := by
      show _ ∈ (daemon.hub.setSubscribers d _).subscribers d
      rw [Hub.subscribers_setSubscribers, if_pos rfl]
      exact List.mem_concat_self
    show (daemon.hub.subscribe d (.channel Socket.bufferSize)).2.isOpen d t.hub.next = true
    rw [hnext, Hub.isOpen, decide_eq_true hmem, Bool.true_or]

/-- What the daemon has a socket wake up for, its session may wake up for. -/
theorem Hosted.wakes (h : Hosted daemon socket s) (hwake : daemon.nextWake? socket = some wake) (i : Nat) :
    ∃ t, s.traffic.Wakes socket.deployment socket.subscription wake t ∧
      t.hub.quiet = (daemon.consume i socket wake).hub.quiet ∧
      (t.IsSupplied socket.deployment socket.subscription →
        (daemon.consume i socket wake).hub.isOpen socket.deployment socket.subscription = true) := by
  obtain ⟨f, hf, -⟩ := h.upheld.reads (by rw [h.stage]; rfl)
  have hfollower : daemon.hub.followers.find? socket.subscription = some f :=
    (Hub.of_quiet h.hub).2.2 ▸ hf
  have hwaiting : daemon.waitingEvents socket = f.events := by
    rw [Daemon.waitingEvents, hfollower]
  unfold Daemon.nextWake? at hwake
  rw [hwaiting] at hwake
  cases hevents : f.events with
  | cons e rest =>
    rw [hevents] at hwake
    cases hwake
    have hupdate : daemon.hub.updateFollower socket.subscription (Follower.drop 1) = { daemon.hub with
        followers := daemon.hub.followers.insert socket.subscription (f.drop 1) } := by
      rw [Hub.updateFollower, hfollower]
    have hconsume : (daemon.consume i socket (.event e)).hub =
        daemon.hub.updateFollower socket.subscription (Follower.drop 1) := rfl
    refine ⟨_, .event hf hevents, ?_, fun hsupplied => ?_⟩
    · rw [hconsume, Hub.quiet_updateFollower, ← h.hub, ← Hub.quiet_updateFollower, Hub.updateFollower, hf]
      rfl
    · rw [hconsume, hupdate]
      exact h.supply hsupplied
  | nil =>
    rw [hevents] at hwake
    dsimp only at hwake
    split at hwake
    · next hclosed =>
      cases hwake
      refine ⟨_, .drained hf hevents fun hsupplied => ?_, h.hub, h.supply⟩
      rw [h.supply hsupplied] at hclosed
      cases hclosed
    · split at hwake
      · cases hwake
        exact ⟨_, .frame _, h.hub, h.supply⟩
      · split at hwake
        · cases hwake
          exact ⟨_, .hangUp, h.hub, h.supply⟩
        · split at hwake
          · cases hwake
            exact ⟨_, .tick, h.hub, h.supply⟩
          · cases hwake

/-- What a socket wakes up for is taken out of the daemon, and the socket is still there. -/
theorem getElem?_consume (hsocket : daemon.sockets[i]? = some socket) (wake : Socket.Wake) :
    ∃ x, (daemon.consume i socket wake).sockets[i]? = some x ∧ x.bare = socket.bare := by
  cases wake with
  | frame f => exact ⟨_, getElem?_set_self_of_some hsocket, rfl⟩
  | event | tick | drained | hangUp => exact ⟨socket, hsocket, rfl⟩

/-- The loop is over, and nobody disturbs what is left to do. -/
theorem undisturbed_end (h : Upheld d k s) (hstage : s.stage = .ended) :
    ∃ s', Steps s s' ∧ s'.stage = .gone ∧ s'.socket = s.socket ∧
      s'.traffic.hub = ((s.traffic.hub.updateFollower k Follower.abandon).unsubscribe d k).2 := by
  let left : Session := { s with
    stage := .leaving s.traffic.leaves.length
    traffic := (s.traffic.abandon s.socket.subscription).leave s.socket.deployment s.socket.subscription }
  have hleave : Own s left := .leave hstage
  have hsink : s.traffic.sink s.socket.subscription = s.socket.subscription := by
    rw [h.subscription]
    exact (h.own k).2 rfl
  obtain ⟨t, hbesides, hhub, hleaves⟩ := steps_leave (t := left.traffic) rfl hsink
  have hpart : Own { left with traffic := t } { left with traffic := t, stage := .gone } :=
    .part rfl (hleaves ▸ List.getElem?_concat_length) rfl
  refine ⟨_, .trans (.tail .refl (.own hleave)) (.tail (steps_others (s := left) (hbesides _)) (.own hpart)),
    rfl, rfl, ?_⟩
  have hleft : left.traffic.hub = s.traffic.hub.updateFollower k Follower.abandon := by
    rw [← h.subscription]
    rfl
  rw [← hleft, ← h.deployment, ← h.subscription]
  exact hhub

/-- The loop of a session does with a wake what the socket does. -/
theorem Hosted.turn (h : Hosted daemon socket s) {x : Socket} (hx : x.bare = socket.bare) (now : Nat)
    (goesThrough : Bool) (wake : Socket.Wake) (t : Traffic) :
    (s.turn now goesThrough wake t).socket.bare = (x.handle now goesThrough wake).bare := by
  show (s.socket.handle now goesThrough wake).bare = _
  rw [Socket.bare_handle, h.alike, ← hx, Socket.bare_handle]

/-- A step that the daemon takes for a socket is steps of its session. The session is then where the socket
is, or is over, when the client has the same frames of both, and the hub of the session is what is left of
that of the daemon. -/
theorem undisturbed_step (h : Hosted daemon socket s) (hsocket : daemon.sockets[i]? = some socket)
    (hstep : daemon.stepSocket i = some daemon') :
    ∃ s' socket', Steps s s' ∧ daemon'.sockets[i]? = some socket' ∧ s'.socket.bare = socket'.bare ∧
      (Hosted daemon' socket' s' ∨
        socket'.hasEnded = true ∧ s'.stage = .gone ∧ s'.traffic.hub.quiet = daemon'.hub.quiet) := by
  simp only [Daemon.stepSocket, hsocket, h.going, Option.bind_eq_bind, Option.bind_some, Bool.false_eq_true,
    if_false] at hstep
  obtain ⟨wake, hwake, hstep⟩ := Option.bind_eq_some_iff.1 hstep
  obtain ⟨t, hwakes, hhub, hsupply⟩ := h.wakes hwake i
  obtain ⟨x, hx, hxbare⟩ := getElem?_consume hsocket wake
  rw [hx, Option.getD_some] at hstep
  generalize daemon.consume i socket wake = served at hhub hsupply hx hstep
  generalize hgoes : (!socket.isAbandoned) = goesThrough at hstep
  have halike := h.turn hxbare served.now goesThrough wake t
  rw [← h.upheld.deployment, ← h.upheld.subscription] at hwakes
  have hturn := Own.turn served.now goesThrough h.stage hwakes
  have hupheld := h.upheld.step hturn
  generalize x.handle served.now goesThrough wake = socket' at hstep halike
  obtain ⟨hdeployment, hsubscription, hended⟩ := Socket.of_bare halike
  have hdeployment := hdeployment.symm.trans hupheld.deployment
  have hsubscription := hsubscription.symm.trans hupheld.subscription
  have hset : (served.sockets.set i socket')[i]? = some socket' := getElem?_set_self_of_some hx
  rcases s.turn_cases served.now goesThrough wake t with ⟨hover, hstage, -⟩ | ⟨hopen, hstage, -⟩
  · rw [hended] at hover
    rw [if_pos hover] at hstep
    cases hstep
    obtain ⟨s', hsteps, hgone, hsame, hleft⟩ := undisturbed_end hupheld hstage
    refine ⟨s', socket', .head (.own hturn) hsteps, hset, hsame ▸ halike, .inr ⟨hover, hgone, ?_⟩⟩
    rw [hleft, Daemon.closeSocket, hdeployment, hsubscription, Hub.quiet_unsubscribe,
      Hub.quiet_updateFollower, Hub.quiet_unsubscribe, Hub.quiet_updateFollower]
    exact congrArg (fun h : Hub => ((h.updateFollower _ _).unsubscribe _ _).2) hhub
  · rw [hended] at hopen
    rw [hopen, if_neg Bool.false_ne_true] at hstep
    cases hstep
    refine ⟨_, socket', .tail .refl (.own hturn), hset, halike,
      .inl ⟨hstage, ?_, hopen, halike, hhub, ?_⟩⟩
    · rw [hdeployment, hsubscription]
      exact hupheld
    · rw [hdeployment, hsubscription]
      exact hsupply

end Session

end Orchestrator
