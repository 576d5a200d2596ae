import Orchestrator.Proofs.Drift.Round

/-!
# The state of a round

A round begins in an idle daemon, nothing goes wrong in it, and nobody but the pass brings jobs. Then
the daemon is as `Patrolled` says, whoever takes the next step: the jobs that were accepted are those
that the pass has offered, each for another deployment, and a deployment for which none was offered has
nobody at it, and the containers it had. So each request of the pass is answered as if the pass were
alone (`Patrolled.served`), to its very end (`Idle.leads`).
-/
namespace Orchestrator

open Engine Daemon

/-! ## Before a pass -/

/-- A daemon of which a pass may begin: nobody has a job, nothing goes wrong under the terms, and there
is room for a job of each saved deployment. -/
structure Daemon.Idle (k : Terms) (saved : List Deployment) (s : Daemon) : Prop where
  unoccupied : s.Unoccupied
  ready : s.Ready k
  service : s.InService
  line : s.queue.line = []
  free : ∀ d, s.queue.inFlight.contains d = false
  capacity : saved.length ≤ s.queue.capacity
  attempts : 1 ≤ s.driftAttempts
  saved : s.store.Holds saved
  secrets : s.store.SecretsReadable

/-- Where stored secrets are well formed, the environment of every deployment can be made. -/
theorem Terms.exists_env {k : Terms} {s : Daemon} (hold : k.Hold s) (hsecrets : s.store.SecretsReadable)
    (config : Deployment) : ∃ env, k.env config = .ok env := by
  have hfound : ∀ entries, ∃ found, k.found config.name entries = .ok found := by
    intro entries
    induction entries with
    | nil => exact ⟨[], rfl⟩
    | cons entry rest ih =>
      obtain ⟨key, aliasText⟩ := entry
      obtain ⟨found, hfound⟩ := ih
      have hsecret := Store.getSecret_cases hsecrets config.name key
      rw [hold.secrets] at hsecret
      rcases hsecret with ⟨secret, hsecret⟩ | hsecret
      · refine ⟨⟨aliasText, secret⟩ :: found, ?_⟩
        rw [Terms.found, hsecret, hfound]
        rfl
      · refine ⟨found, ?_⟩
        rw [Terms.found, hsecret]
        exact hfound
  obtain ⟨found, hfound⟩ := hfound config.secrets.entries
  refine ⟨Fleet.environment config.env found, ?_⟩
  rw [Terms.env, hfound]
  rfl

/-! ## During a round -/

/-- A daemon in a round that began in `s₀`, when jobs have been offered for the deployments `given`. -/
structure Patrolled (k : Terms) (s₀ : Daemon) (saved given : List Deployment) (h : History) (s : Daemon) :
    Prop where
  run : Run (Harmless k) s₀ h s
  /-- The jobs that were accepted are those that were offered. -/
  accepted : h.accepted.map (fun job => (job.scope, job.work))
    = given.map fun d => (d.name, .create d [] [])
  among : ∀ d ∈ given, d ∈ saved ∧ s₀.Lacks d
  nodup : (given.map Deployment.name).Nodup
  counted : s.Counted
  service : s.InService
  capacity : s.queue.capacity = s₀.queue.capacity
  alive : ∀ w ∈ s.workers, w.hasEnded = false
  attempts : s.driftAttempts = s₀.driftAttempts
  saved : s.store.Holds saved
  secrets : s.store.SecretsReadable

section

variable {k : Terms} {s₀ s t : Daemon} {saved given : List Deployment} {h : History} {i : Nat}
  {w w' : Worker} {name : String}

theorem Daemon.Idle.patrolled (hs₀ : s₀.Idle k saved) : Patrolled k s₀ saved [] [] s₀ where
  run := .start
  accepted := rfl
  among _ hd := by cases hd
  nodup := List.nodup_nil
  counted := counted_of_unoccupied hs₀.unoccupied hs₀.line hs₀.free
  service := hs₀.service
  capacity := rfl
  alive w hw := by
    rw [hs₀.unoccupied.workers w hw]
    rfl
  attempts := rfl
  saved := hs₀.saved
  secrets := hs₀.secrets

/-- A job that is under way has begun. -/
theorem LinedUp.begun_ne_nil {d : String} (hlined : LinedUp d h s) (hw : s.workers[i]? = some w)
    (hunder : w.underWay? = some d) : h.begun d ≠ [] := by
  obtain ⟨id, hview⟩ := Worker.underWay_iff.1 hunder
  have hseen : s.view d i = some (id, true) := (view_eq hw).trans hview
  have hmem : i ∈ s.locks.line d := (hlined.mem i).2 (by rw [hseen]; rfl)
  have hid : id ∈ underWay (s.view d) (s.locks.line d) :=
    List.mem_filterMap.2 ⟨i, hmem, by rw [hseen]; rfl⟩
  intro hnone
  have hbegun : ids (h.begun d) = ids (h.ended d) ++ underWay (s.view d) (s.locks.line d) := hlined.begun
  rw [hnone] at hbegun
  rw [(List.append_eq_nil_iff.1 hbegun.symm).2] at hid
  cases hid

namespace Patrolled

variable (hx : Patrolled k s₀ saved given h s) (hs₀ : s₀.Idle k saved)
include hx

include hs₀ in
theorem serial : Serial k s₀ h s := hx.run.serial hs₀.unoccupied hs₀.ready fun _ _ h => h

include hs₀ in
theorem accepted_eq : h.accepted = h.taken ++ s.queue.line := by
  have hline := hx.run.line
  rw [hs₀.line] at hline
  exact hline

/-- No job was accepted for a deployment for which none was offered. -/
theorem tally_accepted (hnew : name ∉ given.map Deployment.name) :
    tally (inScope name) h.accepted = 0 := by
  by_contra hpos
  obtain ⟨job, hjob, rfl⟩ := tally_pos_iff.1 (Nat.pos_of_ne_zero hpos)
  have hmem : (job.scope, job.work) ∈ given.map fun d => (d.name, .create d [] []) := by
    rw [← hx.accepted]
    exact List.mem_map_of_mem (f := fun job : Job => (job.scope, job.work)) hjob
  obtain ⟨d, hd, heq⟩ := List.mem_map.1 hmem
  exact hnew (List.mem_map.2 ⟨d, hd, congrArg Prod.fst heq⟩)

include hs₀ in
/-- Nobody is at a deployment for which no job was offered, and its containers are as in the
beginning. -/
theorem untouched (hnew : name ∉ given.map Deployment.name) :
    s.queue.inFlight.contains name = false ∧ s.memory.owned name = s₀.memory.owned name := by
  have haccepted := hx.tally_accepted hnew
  rw [hx.accepted_eq hs₀, tally_append] at haccepted
  have hheld := (hx.run.held_le hs₀.unoccupied (inScope name)).2
  refine ⟨hx.counted.contains_eq_false (by omega) (by omega), ?_⟩
  have hbegun : h.begun name = [] := by
    have hperm := (hx.run.begun_perm hs₀.unoccupied).filter fun job => decide (job.scope = name)
    rw [List.filter_append] at hperm
    have hnone : h.taken.filter (fun job => decide (job.scope = name)) = [] := by
      rw [List.filter_eq_nil_iff]
      intro job hjob hscope
      have hpos := tally_pos_iff.2 ⟨job, hjob, of_decide_eq_true hscope⟩
      omega
    rw [hnone] at hperm
    exact (List.append_eq_nil_iff.1 hperm.nil_eq.symm).1
  have hfits := (hx.serial hs₀).free name ?_
  · rw [Terms.reached, hbegun] at hfits
    exact hfits
  · intro v hv hattempts
    obtain ⟨j, hj⟩ := List.mem_iff_getElem?.1 hv
    exact ((hx.run.lined hs₀.unoccupied).2 name).begun_ne_nil hj hattempts.underWay hbegun

/-! ### Steps -/

include hs₀ in
/-- A worker takes a step. -/
theorem worker (hstep : s.stepWorker i = some t) : ∃ h', Patrolled k s₀ saved given h' t := by
  obtain ⟨pool, w, w', hpool, hw, hcases⟩ := stepWorker_cases hstep
  have hserial := hx.serial hs₀
  have hworkers : s.workers = pool.workers := by rw [workers, hpool]
  rw [← hworkers] at hw
  have htame := hx.counted.tame w (List.mem_of_getElem? hw)
  obtain ⟨hline, hcapacity, -, -, -⟩ := (hcases.effect htame).queue hx.service.waiting
  obtain ⟨-, -, hattempts, hstore⟩ := hcases.rest
  have hadmitted : admitted s t = [] := by
    apply List.drop_eq_nil_of_le
    rcases hline with hline | ⟨job, hline⟩
    · exact Nat.le_of_eq (by rw [hline])
    · rw [hline]
      exact Nat.le_succ _
  have hengaged := hserial.workers i w hw
  have hmine : t.workers[i]? = some w' := by
    rw [hcases.workers hpool, List.getElem?_set_self (List.getElem?_eq_some_iff.1 hw).1]
  have halive : w'.hasEnded = false := by
    cases hcases with
    | stop =>
      -- nobody has told it to end
      obtain ⟨job, htaken⟩ := hx.service.idle_step hpool hw hstep
      rw [htaken, List.getElem?_set_self (List.getElem?_eq_some_iff.1 hw).1] at hmine
      cases hmine
    | crash => exact absurd rfl (hengaged.1 _)
    | _ => rfl
  have hkept : t.store.Holds saved ∧ t.store.SecretsReadable := by
    rcases hstore with hstore | ⟨a, hstore⟩
    · rw [hstore]
      exact ⟨hx.saved, hx.secrets⟩
    · rw [hstore]
      exact ⟨hx.saved.recordActivity a, hx.secrets.recordActivity a⟩
  refine ⟨_, hx.run.worker hw hstep hmine, ?_, hx.among, hx.nodup, hx.counted.step hpool hw hcases,
    hx.service.step hpool hcases htame, hcapacity.trans hx.capacity, ?_, hattempts.trans hx.attempts,
    hkept.1, hkept.2⟩
  · rw [History.accepted_append, History.accepted_append, hadmitted, accepted_change]
    exact (congrArg _ (List.append_nil _)).trans hx.accepted
  · intro v hv
    rw [hcases.workers hpool] at hv
    rcases List.mem_or_eq_of_mem_set hv with hv | rfl
    · exact hx.alive v hv
    · exact halive

/-- Others than the workers take a step, in which jobs may be accepted that were offered for more
deployments. -/
theorem outside {jobs : List Job} {more : List Deployment} {counts : InFlight} (hspares : Spares s t)
    (hothers : ∀ d, Others d (some k) s t)
    (hqueue : t.queue = { s.queue with line := s.queue.line ++ jobs, inFlight := counts })
    (hvalid : ∀ job ∈ jobs, job.validate = .ok ())
    (hjobs : jobs.map (fun job => (job.scope, job.work)) = more.map fun d => (d.name, .create d [] []))
    (hamong : ∀ d ∈ given ++ more, d ∈ saved ∧ s₀.Lacks d) (hnodup : ((given ++ more).map Deployment.name).Nodup)
    (hcounted : t.Counted) : ∃ h', Patrolled k s₀ saved (given ++ more) h' t := by
  have hline : t.queue.line = s.queue.line ++ jobs := by rw [hqueue]
  have hworkers : t.workers = s.workers := by rw [workers, hspares.pool, workers]
  have hout : Outside s t := ⟨hworkers, hspares.locks, jobs, hline, hvalid⟩
  refine ⟨_, hx.run.outside hout ⟨hothers, by rw [hspares.pool]⟩, ?_, hamong, hnodup, hcounted, ?_, ?_, ?_,
    hspares.attempts.trans hx.attempts, ?_, ?_⟩
  · rw [History.accepted_append, History.accepted_map, admitted_eq hline, List.map_append,
      List.map_append, hx.accepted, hjobs]
  · refine ⟨hspares.producers.trans hx.service.producers, hspares.watch.trans hx.service.watch, ?_, ?_, ?_, ?_⟩
    · rw [hqueue]
      exact hx.service.isOpen
    · rw [hqueue]
      exact hx.service.waiting
    · rw [hqueue]
      exact hx.service.granted
    · rw [hspares.pool]
      exact hx.service.isRunning
  · rw [hqueue]
    exact hx.capacity
  · rw [hworkers]
    exact hx.alive
  · rw [hspares.store]
    exact hx.saved
  · rw [hspares.store]
    exact hx.secrets

/-- Something happens that leaves jobs, workers, containers and store as they are. -/
theorem quiet (hspares : Spares s t) (hqueue : t.queue = s.queue)
    (hothers : ∀ d, Others d (some k) s t) : ∃ h', Patrolled k s₀ saved given h' t := by
  have hworkers : t.workers = s.workers := by rw [workers, hspares.pool, workers]
  have hsame : t.queue = { s.queue with line := s.queue.line ++ [], inFlight := s.queue.inFlight } := by
    rw [hqueue, List.append_nil]
  have hkept : given ++ [] = given := List.append_nil _
  have hamong : ∀ d ∈ given ++ [], d ∈ saved ∧ s₀.Lacks d := by
    rw [hkept]
    exact hx.among
  obtain ⟨h', hx'⟩ := hx.outside hspares hothers hsame (fun _ hjob => by cases hjob) rfl hamong
    (by rw [hkept]; exact hx.nodup) (hx.counted.of_eq hworkers hqueue)
  rw [hkept] at hx'
  exact ⟨h', hx'⟩

include hs₀ in
/-- Anyone in the daemon takes a step. -/
theorem act (a : Actor) (hstep : s.step? a = some t) : ∃ h', Patrolled k s₀ saved given h' t := by
  rcases step?_rest hx.service hstep with ⟨i, rfl⟩ | ⟨hub, sockets, rfl⟩
  · exact hx.worker hs₀ hstep
  · exact hx.quiet ⟨rfl, rfl, rfl, rfl, rfl, rfl⟩ rfl fun d =>
      Aside.others ⟨rfl, rfl, fun _ _ => rfl, Nat.le_refl _, rfl⟩

/-- Time goes by. -/
theorem wait (milliseconds : Nat) :
    ∃ h', Patrolled k s₀ saved given h' { s with now := s.now + milliseconds } :=
  hx.quiet ⟨rfl, rfl, rfl, rfl, rfl, rfl⟩ rfl fun _ =>
    Aside.others ⟨rfl, rfl, fun _ _ => rfl, Nat.le_refl _, rfl⟩

include hs₀ in
/-- The engine is asked for containers. -/
theorem listed (name : String) :
    (s.serve (.engine (.list Container.ownerLabel name))).1
        = .ok ((s.memory.owned name).map Created.container) ∧
      ∃ h', Patrolled k s₀ saved given h' (s.serve (.engine (.list Container.ownerLabel name))).2 := by
  have hcalm := (hx.serial hs₀).calm
  obtain ⟨hreply, hmemory, -, hfleet, -, hnames, -⟩ :=
    serve_engine (c := .list Container.ownerLabel name) hcalm.steady.faultless
  have hsame : (s.memory.serve s.stamp.1 (.list Container.ownerLabel name)).2 = s.memory := rfl
  rw [hsame] at hmemory
  refine ⟨?_, ?_⟩
  · rw [hreply, ← Memory.labelled_eq_owned]
    rfl
  · refine hx.quiet ⟨rfl, rfl, rfl, rfl, rfl, rfl⟩ rfl fun d => ?_
    have hhold := hcalm.hold.called (c := .list Container.ownerLabel name) hcalm.steady
      (mild_of_containers_eq rfl rfl rfl rfl rfl)
    refine ⟨congrArg (Memory.owned d) hmemory, fun n net hnet => ?_, Nat.le_of_eq ?_, hfleet,
      fun hsteady => hsteady.called _, fun k' hk' _ => ⟨?_, Nat.le_of_eq hnames.symm⟩⟩
    · exact hmemory.symm ▸ hnet
    · exact (congrArg Memory.created hmemory).symm
    · exact Option.mem_some.1 hk' ▸ hhold

include hs₀ in
/-- The line holds at most the jobs of the deployments before, so there is room for another. -/
theorem hasSlot {d : Deployment} (hnodup : ((given ++ [d]).map Deployment.name).Nodup)
    (hamong : given ++ [d] ⊆ saved) : s.queue.hasSlot = true := by
  have hlength : given.length + 1 ≤ saved.length := by
    have := (List.subperm_of_subset hnodup.of_map hamong).length_le
    rwa [List.length_append] at this
  have haccepted : h.accepted.length = given.length := by
    have := congrArg List.length hx.accepted
    rwa [List.length_map, List.length_map] at this
  have hline : s.queue.line.length ≤ h.accepted.length := by
    rw [hx.accepted_eq hs₀, List.length_append]
    exact Nat.le_add_left _ _
  have hroom := hs₀.capacity
  rw [Queue.hasSlot, hx.service.granted, hx.capacity, decide_eq_true_eq, List.length_nil]
  omega

include hs₀ in
/-- A job is offered for a deployment that lacks containers, for which none was offered before, and is
accepted. -/
theorem offered {d : Deployment} (hd : d ∈ saved ∧ s₀.Lacks d) (hnew : d.name ∉ given.map Deployment.name) :
    (∃ id, (s.serve (.offer d s₀.driftAttempts)).1 = .ok id) ∧
      ∃ h', Patrolled k s₀ saved (given ++ [d]) h' (s.serve (.offer d s₀.driftAttempts)).2 := by
  have hnodup : ((given ++ [d]).map Deployment.name).Nodup := by
    rw [List.map_append, List.nodup_append]
    refine ⟨hx.nodup, List.nodup_singleton _, fun a ha b hb heq => ?_⟩
    obtain rfl := List.mem_singleton.1 hb
    exact hnew (heq ▸ ha)
  have hamong : ∀ e ∈ given ++ [d], e ∈ saved ∧ s₀.Lacks e := by
    intro e he
    rcases List.mem_append.1 he with he | he
    · exact hx.among e he
    · obtain rfl := List.mem_singleton.1 he
      exact hd
  obtain ⟨job, t, hserve, hscope, hwork, hvalid, hqueue, hspares, haside⟩ :=
    hx.service.serve_offer (hx.saved.named d hd.1) hs₀.attempts
      (hx.hasSlot hs₀ hnodup fun e he => (hamong e he).1)
  have hworkers : t.workers = s.workers := by rw [workers, hspares.pool, workers]
  have hline : t.queue = { s.queue with
      line := s.queue.line ++ [job]
      inFlight := s.queue.inFlight.acquire job.scope } := hqueue
  rw [hserve]
  refine ⟨⟨job.id, rfl⟩, hx.outside hspares (fun d => haside.others) hline (by simpa using hvalid) ?_
    hamong hnodup (hx.counted.push job hworkers hqueue)⟩
  rw [List.map_singleton, List.map_singleton, hscope, hwork]

include hs₀ in
/-- The pass is answered as if it were alone. -/
theorem served {r : Request} (hallowed : (Setting.patrol s₀ saved).allowed r given) :
    ∃ given' h', (Setting.patrol s₀ saved).answers r given (s.serve r).1 given' ∧
      Patrolled k s₀ saved given' h' (s.serve r).2 := by
  cases r with
  | isBusy name =>
    obtain ⟨hfree, -⟩ := hx.untouched hs₀ hallowed
    exact ⟨given, h, ⟨hfree, rfl⟩, hx⟩
  | engine c =>
    cases c with
    | list label name =>
      obtain ⟨rfl, hnew⟩ := hallowed
      obtain ⟨hreply, h', hx'⟩ := hx.listed hs₀ name
      rw [(hx.untouched hs₀ hnew).2] at hreply
      exact ⟨given, h', ⟨hreply, rfl⟩, hx'⟩
    | _ => exact hallowed.elim
  | offer d attempts =>
    obtain ⟨hd, hnew, rfl⟩ := hallowed
    obtain ⟨hid, h', hx'⟩ := hx.offered hs₀ hd hnew
    exact ⟨given ++ [d], h', ⟨hid, rfl⟩, hx'⟩
  | _ => exact hallowed.elim

end Patrolled

/-! ## Whole rounds -/

/-- Along a round the rest of the pass is answered as if it were alone. -/
theorem Daemon.Idle.leads {rest : Program (Except (Failure Empty) DriftReport)}
    {post : Except (Failure Empty) DriftReport → List Deployment → Prop} (hs₀ : s₀.Idle k saved)
    (hrest : rest.Meets (.patrol s₀ saved) post []) {x : Round} (hleads : Round.Leads ⟨s₀, rest⟩ x) :
    ∃ given h, Patrolled k s₀ saved given h x.daemon ∧
      x.rest.Meets (.patrol s₀ saved) post given := by
  induction hleads with
  | here => exact ⟨[], [], hs₀.patrolled, hrest⟩
  | step _ hstep ih =>
    obtain ⟨given, h, hx, hmeets⟩ := ih
    cases hstep with
    | pass =>
      obtain ⟨given', h', hanswer, hx'⟩ := hx.served hs₀ hmeets.1
      exact ⟨given', h', hx', hmeets.2 _ _ hanswer⟩
    | act a hact =>
      obtain ⟨h', hx'⟩ := hx.act hs₀ a hact
      exact ⟨given, h', hx', hmeets⟩
    | wait milliseconds =>
      obtain ⟨h', hx'⟩ := hx.wait milliseconds
      exact ⟨given, h', hx', hmeets⟩

end

end Orchestrator
