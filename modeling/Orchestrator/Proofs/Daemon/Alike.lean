import Mathlib.Data.List.Forall2
import Orchestrator.Daemon.Actors
import Orchestrator.Proofs.Program.Discreet
import Orchestrator.Proofs.Store.Veiled

/-!
# Daemons that differ in values of secrets

Daemons are alike if they are the same but for values of secrets in the store, for environments of
containers in the engine, and for what is left of programs, which is alike. Whoever acts in one of them
can act in the other, and leaves them alike: `Alike.step?`. What followers and clients are sent is a part
of the daemon that is the same in both.
-/
namespace Orchestrator

/-! ## What is left of programs -/

/-- The workers do the same, and what is left of their attempts is alike. -/
inductive Worker.Alike : Worker → Worker → Prop
  | idle : Alike .idle .idle
  | taken {job : Job} : Alike (.taken job) (.taken job)
  | locking {job : Job} : Alike (.locking job) (.locking job)
  | attempting {job : Job} {attempt : Nat} {rest rest' : AttemptProgram} (h : rest.Alike Eq rest') :
    Alike (.attempting job attempt rest) (.attempting job attempt rest')
  | sleeping {job : Job} {attempt wake : Nat} {rest rest' : AttemptProgram} (h : rest.Alike Eq rest') :
    Alike (.sleeping job attempt wake rest) (.sleeping job attempt wake rest')
  | resting {job : Job} {attempt wake : Nat} : Alike (.resting job attempt wake) (.resting job attempt wake)
  | stopped : Alike .stopped .stopped
  | crashed {job : Job} : Alike (.crashed job) (.crashed job)

/-- The pools are the same but for their workers, which are alike. -/
inductive Pool.Alike (p : Pool) : Pool → Prop
  | of {workers : List Worker} (h : List.Forall₂ Worker.Alike p.workers workers) :
    Alike p { p with workers := workers }

/-- The watchers do the same, and what is left of their passes is alike. -/
inductive Watcher.Alike : Watcher → Watcher → Prop
  | starting : Alike .starting .starting
  | polling {rest rest' : Program (Except (Failure Empty) DriftReport)} (h : rest.Alike Eq rest') :
    Alike (.polling rest) (.polling rest')
  | resting {wake : Nat} : Alike (.resting wake) (.resting wake)
  | ended : Alike .ended .ended

/-- The watchers are told the same. -/
inductive Watch.Alike (w : Watch) : Watch → Prop
  | of {state : Watcher} (h : w.state.Alike state) : Alike w { w with state := state }

theorem Worker.Alike.hasEnded {w w' : Worker} (h : w.Alike w') : w.hasEnded = w'.hasEnded := by
  cases h <;> rfl

theorem Pool.Alike.haveEnded {p p' : Pool} (h : p.Alike p') : p.haveEnded = p'.haveEnded := by
  obtain ⟨hworkers⟩ := h
  unfold Pool.haveEnded
  dsimp only
  generalize p.workers = workers at hworkers
  induction hworkers with
  | nil => rfl
  | cons hw _ ih => rw [List.all_cons, List.all_cons, hw.hasEnded, ih]

/-- Is no attempt under way? -/
def Worker.isAtRest : Worker → Bool
  | .attempting .. | .sleeping .. => false
  | _ => true

/-- Is no pass under way? -/
def Watcher.isAtRest : Watcher → Bool
  | .polling _ => false
  | _ => true

namespace Daemon

/-- The daemons are the same but for values of secrets and what depends on them. -/
inductive Alike (s : Daemon) : Daemon → Prop
  | of {store : Store} {engine : Engine.FaultyEngine} {pool : Option Pool} {watch : Option Watch}
    (store_alike : s.store.Alike store) (engine_bare : s.engine.bare = engine.bare)
    (pool_alike : Option.Rel Pool.Alike s.pool pool) (watch_alike : Option.Rel Watch.Alike s.watch watch) :
    Alike s { s with store := store, engine := engine, pool := pool, watch := watch }

variable {s s' : Daemon}

theorem Alike.stamp (h : s.Alike s') : s.stamp.1 = s'.stamp.1 ∧ s.stamp.2.Alike s'.stamp.2 := by
  obtain ⟨hstore, hengine, hpool, hwatch⟩ := h
  exact ⟨rfl, .of hstore hengine hpool hwatch⟩

theorem Alike.announce (h : s.Alike s') (deployment : String) (e : Event) :
    (s.announce deployment e).Alike (s'.announce deployment e) := by
  obtain ⟨hstore, hengine, hpool, hwatch⟩ := h
  exact .of hstore hengine hpool hwatch

/-! ## Requests of programs -/

/-- A request that asks for no secret is answered alike. -/
theorem Alike.serve (h : s.Alike s') {r : Request} (hr : r.asksSecret = false) :
    (s.serve r).1 = (s'.serve r).1 ∧ (s.serve r).2.Alike (s'.serve r).2 := by
  obtain ⟨hstore, hengine, hpool, hwatch⟩ := h
  cases r with
  | engine call =>
    obtain ⟨hanswer, hafter⟩ := Engine.FaultyEngine.serve_alike hengine s.stamp.1 call
    exact ⟨hanswer, .of hstore hafter hpool hwatch⟩
  | secret deployment key => cases hr
  | suffix => exact ⟨rfl, .of hstore hengine hpool hwatch⟩
  | pause milliseconds => exact ⟨rfl, .of hstore hengine hpool hwatch⟩
  | announce deployment e => exact ⟨rfl, .of hstore hengine hpool hwatch⟩
  | isBusy deployment => exact ⟨rfl, .of hstore hengine hpool hwatch⟩
  | offer config attempts => exact ⟨rfl, .of hstore hengine hpool hwatch⟩

/-- So is one to create containers that differ in their environments only. -/
theorem Alike.serve_create (h : s.Alike s') {spec spec' : Engine.ContainerSpec}
    (hspec : spec.bare = spec'.bare) :
    (s.serve (.engine (.create spec))).1 = (s'.serve (.engine (.create spec'))).1 ∧
      (s.serve (.engine (.create spec))).2.Alike (s'.serve (.engine (.create spec'))).2 := by
  obtain ⟨hstore, hengine, hpool, hwatch⟩ := h
  obtain ⟨hanswer, hafter⟩ := Engine.FaultyEngine.create_alike hengine s.stamp.1 hspec
  exact ⟨hanswer, .of hstore hafter hpool hwatch⟩

/-- One for a secret is answered alike but for its value. -/
theorem Alike.serve_secret (h : s.Alike s') (deployment key : String) :
    (s.store.getSecret deployment key).map Secret.redacted
        = (s'.store.getSecret deployment key).map Secret.redacted ∧
      (s.serve (.secret deployment key)).2.Alike (s'.serve (.secret deployment key)).2 := by
  have hwhole := h
  obtain ⟨hstore, -, -, -⟩ := h
  exact ⟨hstore.getSecret deployment key, hwhole⟩

/-- Alike programs that ask for something go on alike with what they are answered. -/
theorem Alike.answered (h : s.Alike s') {α β : Type} {R : α → β → Prop} {r r' : Request}
    {next : r.Answer → Program α} {next' : r'.Answer → Program β}
    (hp : (Program.ask r next).Alike R (Program.ask r' next')) :
    (s.serve r).2.Alike (s'.serve r').2 ∧ (next (s.serve r).1).Alike R (next' (s'.serve r').1) := by
  cases hp with
  | ask hr hnext =>
    obtain ⟨hanswer, hafter⟩ := h.serve hr
    refine ⟨hafter, ?_⟩
    rw [← hanswer]
    exact hnext _
  | secret hnext =>
    obtain ⟨hfound, hafter⟩ := h.serve_secret _ _
    exact ⟨hafter, hnext _ _ hfound⟩
  | create hspec hnext =>
    obtain ⟨hanswer, hafter⟩ := h.serve_create hspec
    refine ⟨hafter, ?_⟩
    rw [← hanswer]
    exact hnext _

/-! ## Workers -/

theorem rel_map {α β : Type} {R : α → β → Prop} {f : α → α} {g : β → β} {o : Option α} {o' : Option β}
    (h : Option.Rel R o o') (hfg : ∀ a b, R a b → R (f a) (g b)) : Option.Rel R (o.map f) (o'.map g) := by
  cases h with
  | none => exact .none
  | some h => exact .some (hfg _ _ h)

theorem rel_getElem? {α β : Type} {R : α → β → Prop} {l : List α} {l' : List β}
    (h : List.Forall₂ R l l') (i : Nat) : Option.Rel R l[i]? l'[i]? := by
  induction h generalizing i with
  | nil => exact .none
  | cons hfirst _ ih =>
    cases i with
    | zero => exact .some hfirst
    | succ i => simpa using ih i

theorem forall₂_set {α β : Type} {R : α → β → Prop} {l : List α} {l' : List β} {a : α} {b : β}
    (h : List.Forall₂ R l l') (hab : R a b) (i : Nat) : List.Forall₂ R (l.set i a) (l'.set i b) := by
  induction h generalizing i with
  | nil => exact .nil
  | cons hfirst hrest ih =>
    cases i with
    | zero => exact .cons hab hrest
    | succ i => exact .cons hfirst (ih i)

theorem Alike.setWorker (h : s.Alike s') (i : Nat) {w w' : Worker} (hw : w.Alike w') :
    (s.setWorker i w).Alike (s'.setWorker i w') := by
  obtain ⟨hstore, hengine, hpool, hwatch⟩ := h
  refine .of hstore hengine (rel_map hpool ?_) hwatch
  rintro p _ ⟨hworkers⟩
  exact .of (forall₂_set hworkers hw i)

/-- The attempts of a job that alike pools begin are one program, which is like itself. -/
theorem Alike.beginAttempt (h : s.Alike s') {pool pool' : Pool} (hp : pool.Alike pool') (i : Nat) (job : Job)
    (attempt : Nat) : (s.beginAttempt pool i job attempt).Alike (s'.beginAttempt pool' i job attempt) := by
  obtain ⟨hstore, hengine, hpool, hwatch⟩ := h
  obtain ⟨hworkers⟩ := hp
  have hprogram := pool.executor.discreet_begin s.fleet job.attempted
  refine .of hstore hengine (.some (.of ?_)) hwatch
  exact forall₂_set hworkers (.attempting hprogram) i

theorem Alike.complete (h : s.Alike s') (i : Nat) (job : Job) (outcome : JobOutcome) :
    (s.complete i job outcome).Alike (s'.complete i job outcome) := by
  obtain ⟨hstore, hengine, hpool, hwatch⟩ := h
  unfold Daemon.complete
  refine setWorker ?_ i .idle
  exact .of (hstore.recordActivity _) hengine hpool hwatch

theorem Alike.endAttempt (h : s.Alike s') {pool pool' : Pool} (hp : pool.Alike pool') (i attempt : Nat)
    (result : Except (Failure JobError) Unit) (job : Job) :
    (s.endAttempt pool i attempt result job).Alike (s'.endAttempt pool' i attempt result job) := by
  obtain ⟨hworkers⟩ := hp
  unfold Daemon.endAttempt
  rcases result with (e | text) | u
  · dsimp only
    split
    · obtain ⟨hstore, hengine, hpool, hwatch⟩ := h
      refine setWorker ?_ i .resting
      exact .of hstore hengine hpool hwatch
    · exact h.complete i _ .failed
  · obtain ⟨hstore, hengine, hpool, hwatch⟩ := h
    refine setWorker ?_ i .crashed
    exact .of hstore hengine hpool hwatch
  · exact h.complete i job .succeeded

theorem Alike.stepWorker (h : s.Alike s') (i : Nat) :
    Option.Rel Alike (s.stepWorker i) (s'.stepWorker i) := by
  have hwhole := h
  obtain ⟨hstore, hengine, hpool, hwatch⟩ := h
  unfold Daemon.stepWorker
  dsimp only
  rcases hs : s.pool with _ | p
  · rw [hs] at hpool
    cases hpool
    exact .none
  · rw [hs] at hpool
    obtain ⟨hp⟩ := hpool
    have hp' := hp
    obtain @⟨workers', hworkers⟩ := hp
    simp only [Option.bind_eq_bind, Option.bind_some]
    have hw := rel_getElem? hworkers i
    generalize p.workers[i]? = w, workers'[i]? = w' at hw
    cases hw with
    | none => exact .none
    | some hw =>
      simp only [Option.bind_some]
      cases hw with
      | idle =>
        dsimp only
        split
        · exact .some (hwhole.setWorker i .stopped)
        · rcases s.queue.take? with _ | ⟨job, queue⟩
          · dsimp only
            split
            · exact .some (hwhole.setWorker i .stopped)
            · exact .none
          · refine .some (setWorker ?_ i .taken)
            exact .of hstore hengine (.some hp') hwatch
      | taken =>
        refine .some (setWorker ?_ i .locking)
        exact .of hstore hengine (.some hp') hwatch
      | locking =>
        dsimp only
        split
        · exact .some ((hwhole.stamp.2.announce _ _).beginAttempt hp' i _ 1)
        · exact .none
      | @attempting job attempt rest rest' hrest =>
        cases hrest with
        | done hresult =>
          obtain rfl := hresult
          exact .some (hwhole.endAttempt hp' i attempt _ _)
        | @ask r next next' hr hnext =>
          obtain ⟨hafter, hrest⟩ := hwhole.answered (.ask hr hnext)
          cases r with
          | pause milliseconds => exact .some (hwhole.setWorker i (.sleeping (hnext ())))
          | _ => exact .some (hafter.setWorker i (.attempting hrest))
        | secret hnext =>
          obtain ⟨hafter, hrest⟩ := hwhole.answered (.secret hnext)
          exact .some (hafter.setWorker i (.attempting hrest))
        | create hspec hnext =>
          obtain ⟨hafter, hrest⟩ := hwhole.answered (.create hspec hnext)
          exact .some (hafter.setWorker i (.attempting hrest))
      | sleeping h =>
        dsimp only
        split
        · exact .some (hwhole.setWorker i (.attempting h))
        · exact .none
      | resting =>
        dsimp only
        split
        · exact .some (hwhole.beginAttempt hp' i _ _)
        · exact .none
      | stopped => exact .none
      | crashed => exact .none

/-! ## The watcher for drift -/

theorem Alike.become (h : s.Alike s') {watch watch' : Watch} (hw : watch.Alike watch') {state state' : Watcher}
    (hstate : state.Alike state') :
    Alike { s with watch := some { watch with state := state } }
      { s' with watch := some { watch' with state := state' } } := by
  obtain ⟨hstore, hengine, hpool, hwatch⟩ := h
  obtain ⟨hw⟩ := hw
  exact .of hstore hengine hpool (.some (.of hstate))

theorem Alike.stepWatcher (h : s.Alike s') : Option.Rel Alike s.stepWatcher s'.stepWatcher := by
  have hwhole := h
  obtain ⟨hstore, hengine, hpool, hwatch⟩ := h
  unfold Daemon.stepWatcher
  dsimp only
  rcases hs : s.watch with _ | ⟨state, isShutdown⟩
  · rw [hs] at hwatch
    cases hwatch
    exact .none
  · rw [hs] at hwatch
    obtain ⟨hw⟩ := hwatch
    have hw' := hw
    obtain ⟨hstate⟩ := hw
    simp only [Option.bind_eq_bind, Option.bind_some]
    cases hstate with
    | starting =>
      rw [← hstore.listed]
      rcases s.store.deployments with e | deployments
      · exact .some (hwhole.become hw' .resting)
      · exact .some (hwhole.become hw' (.polling (Drift.discreet_poll s.driftAttempts deployments)))
    | @polling rest rest' hrest =>
      rcases rest with outcome | ⟨r, next⟩ <;> rcases rest' with outcome' | ⟨r', next'⟩
      · obtain ⟨rfl⟩ := hrest
        rcases outcome with e | report
        · exact .some (hwhole.become hw' .ended)
        · exact .some (hwhole.become hw' .resting)
      · cases hrest
      · cases hrest
      · obtain ⟨hafter, hrest⟩ := hwhole.answered hrest
        exact .some (hafter.become hw' (.polling hrest))
    | resting =>
      dsimp only
      split
      · exact .some (hwhole.become hw' .ended)
      · split
        · exact .some (hwhole.become hw' .starting)
        · exact .none
    | ended => exact .none

/-! ## Producers, deliveries and sockets -/

theorem Alike.stepProducer (h : s.Alike s') (ticket : Ticket) :
    Option.Rel Alike (s.stepProducer ticket) (s'.stepProducer ticket) := by
  obtain ⟨hstore, hengine, hpool, hwatch⟩ := h
  unfold Daemon.stepProducer
  dsimp only
  generalize s.producers.find? _ = found
  rcases found with _ | producer
  · exact .none
  · simp only [Option.bind_eq_bind, Option.bind_some]
    split
    · exact .none
    · exact .some (.of hstore hengine hpool hwatch)
    · exact .some (.of hstore hengine hpool hwatch)

theorem Alike.stepDelivery (h : s.Alike s') (i : Nat) :
    Option.Rel Alike (s.stepDelivery i) (s'.stepDelivery i) := by
  obtain ⟨hstore, hengine, hpool, hwatch⟩ := h
  unfold Daemon.stepDelivery
  dsimp only
  rcases s.hub.deliver? i with _ | hub
  · exact .none
  · exact .some (.of hstore hengine hpool hwatch)

theorem Alike.consume (h : s.Alike s') (i : Nat) (socket : Socket) (wake : Socket.Wake) :
    (s.consume i socket wake).Alike (s'.consume i socket wake) := by
  have hwhole := h
  obtain ⟨hstore, hengine, hpool, hwatch⟩ := h
  cases wake with
  | event e => exact .of hstore hengine hpool hwatch
  | frame f => exact .of hstore hengine hpool hwatch
  | tick => exact hwhole
  | drained => exact hwhole
  | hangUp => exact hwhole

theorem Alike.closeSocket (h : s.Alike s') (socket : Socket) :
    (s.closeSocket socket).Alike (s'.closeSocket socket) := by
  obtain ⟨hstore, hengine, hpool, hwatch⟩ := h
  exact .of hstore hengine hpool hwatch

/-- A socket wakes up for the same, whatever secrets there are. -/
theorem Alike.nextWake? (h : s.Alike s') (socket : Socket) : s.nextWake? socket = s'.nextWake? socket := by
  cases h
  rfl

theorem Alike.sockets (h : s.Alike s') : s.sockets = s'.sockets := by
  cases h
  rfl

theorem Alike.stepSocket (h : s.Alike s') (i : Nat) :
    Option.Rel Alike (s.stepSocket i) (s'.stepSocket i) := by
  unfold Daemon.stepSocket
  rw [← h.sockets]
  rcases s.sockets[i]? with _ | socket
  · exact .none
  · simp only [Option.bind_eq_bind, Option.bind_some]
    split
    · exact .none
    · rw [← h.nextWake? socket]
      rcases s.nextWake? socket with _ | wake
      · exact .none
      · have hafter := h.consume i socket wake
        simp only [Option.bind_some]
        generalize s.consume i socket wake = t, s'.consume i socket wake = t' at hafter
        obtain ⟨hstore, hengine, hpool, hwatch⟩ := hafter
        dsimp only
        split
        · refine .some (closeSocket ?_ _)
          exact .of hstore hengine hpool hwatch
        · exact .some (.of hstore hengine hpool hwatch)

/-! ## Everybody -/

/-- Whoever acts in a daemon can act in one like it, and leaves them alike. -/
theorem Alike.step? (h : s.Alike s') (actor : Actor) : Option.Rel Alike (s.step? actor) (s'.step? actor) := by
  cases actor with
  | producer ticket => exact h.stepProducer ticket
  | worker i => exact h.stepWorker i
  | delivery i => exact h.stepDelivery i
  | watcher => exact h.stepWatcher
  | socket i => exact h.stepSocket i

/-! ## Daemons at rest -/

/-- Neither an attempt nor a pass is under way. -/
structure AtRest (s : Daemon) : Prop where
  workers : ∀ w ∈ s.workers, w.isAtRest = true
  watch : ∀ watch, s.watch = some watch → watch.state.isAtRest = true

/-- A daemon at rest has no programs, and so is like itself. -/
theorem AtRest.alike (h : s.AtRest) : s.Alike s := by
  have hworker (w : Worker) (hw : w.isAtRest = true) : w.Alike w := by
    cases w with
    | attempting job attempt rest => cases hw
    | sleeping job attempt wake rest => cases hw
    | _ => constructor
  have hwatcher (w : Watcher) (hw : w.isAtRest = true) : w.Alike w := by
    cases w with
    | polling rest => cases hw
    | _ => constructor
  refine .of (.refl s.store) rfl ?_ ?_
  · rcases hs : s.pool with _ | p
    · exact .none
    · refine .some (.of (List.forall₂_same.2 fun w hw => hworker w (h.workers w ?_)))
      rw [Daemon.workers, hs]
      exact hw
  · rcases hs : s.watch with _ | watch
    · exact .none
    · exact .some (.of (hwatcher watch.state (h.watch watch hs)))

end Daemon

end Orchestrator
