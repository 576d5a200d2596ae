import Orchestrator.Proofs.Scene.Accounting

/-!
# A pass for drift beside others

The watcher for drift asks whether a deployment is busy, lists its containers, and then offers a job
that rolls it out. Anyone may act between these steps, so others' jobs of the deployment can be accepted
after it was found free: the corrective job is then put behind them (`put_beside_others`). Earlier ones
cannot hide: whatever is queued or running when the corrective job is put was accepted since the
deployment was found free (`put_after_check`).
-/
namespace Orchestrator

open Daemon

/-! ## Passes -/

/-- A deployment that was found free of jobs. -/
structure Finding where
  deployment : String
  /-- How many jobs had been accepted by then. -/
  accepted : Nat

/-- A pass for drift in a scene. -/
structure Pass where
  scene : Scene
  /-- What is left of the pass. -/
  rest : Program (Except (Failure Empty) DriftReport)
  /-- The submission of the corrective job that was offered last, until it is answered. -/
  posted : Option Ticket := none
  /-- What was found free last. -/
  checked : Option Finding := none

/-- Who goes on next in the scene of a pass. -/
inductive Turn where
  | watcher
  | others (m : Move)

/-- Something happens in the daemon that concerns neither queue nor pool. -/
def Scene.elsewhere (s : Scene) (d : Daemon) : Scene := { s with daemon := s.daemon.withRest d }

namespace Pass

/-- The pass goes one step on, if it has not ended and need not wait for an answer. -/
def poll? (x : Pass) : Option Pass :=
  match x.rest, x.posted with
  | .done _, _ => none
  | .ask (.offer _ _) next, some ticket => do
    let answer ← (← x.scene.calls[ticket]?).answer?
    return { x with rest := next answer, posted := none }
  | .ask (.offer config attempts) _, none =>
    let (job, daemon) := x.scene.daemon.newRollout config attempts
    some { x with
      scene := (x.scene.elsewhere daemon).offer job
      posted := some x.scene.calls.length }
  | .ask (.isBusy d) next, _ =>
    let busy := x.scene.queue.inFlight.contains d
    some { x with
      rest := next busy
      checked := if busy then x.checked else some ⟨d, x.scene.accepted.length⟩ }
  | .ask r next, _ =>
    let (answer, daemon) := x.scene.daemon.serve r
    some { x with scene := x.scene.elsewhere daemon, rest := next answer }

def step? (x : Pass) : Turn → Option Pass
  | .watcher => x.poll?
  | .others m => (x.scene.step? m).map fun scene => { x with scene := scene }

/-- Takes turns, passing over those that cannot be taken. -/
def run (x : Pass) (turns : List Turn) : Pass := turns.foldl (fun x turn => (x.step? turn).getD x) x

/-- A pass over deployments is about to begin. -/
def starting (s : Scene) (attempts : UInt32) (deployments : List Deployment) : Pass :=
  ⟨s, (Drift.poll attempts deployments).run, none, none⟩

end Pass

/-! ## What is offered was found free -/

/-- A job may be offered for the deployment that was found free last. -/
def Setting.watchful : Setting (Option String) where
  allowed r free := ∀ config attempts, r = .offer config attempts → free = some config.name
  answers
    | .isBusy d, free, busy, free' => free' = if busy = true then free else some d
    | _, free, _, free' => free' = free

namespace Drift

theorem meets_reconcile (attempts : UInt32) (d : Deployment) :
    (reconcile attempts d).Meets .watchful (fun _ _ => True) (fun _ _ => True) (some d.name) := by
  refine Program.meets_bind.2 (Program.meets_map.2 ⟨nofun, fun reply free hfree => ?_⟩)
  obtain rfl : free = some d.name := hfree
  rcases reply with (e | text) | containers
  · trivial
  · trivial
  · simp only [Program.meets_done, Except.mapError]
    split
    · trivial
    · refine ⟨fun config _ h => ?_, fun _ _ _ => trivial⟩
      obtain ⟨rfl, -⟩ := Request.offer.inj h
      rfl

theorem meets_check (attempts : UInt32) (d : Deployment) (free : Option String) :
    (check attempts d).Meets .watchful (fun _ _ => True) (fun _ _ => True) free := by
  refine Task.meets_bind.2 (Task.meets_ask.2 ⟨nofun, fun busy free' hfree => ?_⟩)
  cases busy with
  | true => trivial
  | false =>
    obtain rfl : free' = some d.name := hfree
    exact meets_reconcile attempts d

theorem meets_poll (attempts : UInt32) (deployments : List Deployment) (free : Option String) :
    (poll attempts deployments).Meets .watchful (fun _ _ => True) (fun _ _ => True) free := by
  induction deployments generalizing free with
  | nil => trivial
  | cons d rest ih =>
    refine Task.meets_bind.2 ((meets_check attempts d free).mono (fun _ free' _ => ?_) fun _ _ _ => trivial)
    exact Task.meets_bind.2 ((ih free').mono (fun _ _ _ => trivial) fun _ _ _ => trivial)

end Drift

/-! ## What others can do to a pass -/

section Others

variable {s t : Scene}

theorem Change.accepted_prefix (h : Change s t) : s.accepted <+: t.accepted := by
  cases h with
  | progress h =>
    cases h with
    | send _ => exact List.prefix_append ..
    | put _ _ => exact List.prefix_append ..
    | _ => exact List.prefix_rfl
  | control _ h => exact h.sameJobs.accepted ▸ List.prefix_rfl
  | _ => exact List.prefix_rfl

theorem Change.finished_prefix (h : Change s t) (tame : ∀ w ∈ s.daemon.workers, w.Tame) :
    s.finished <+: t.finished := by
  cases h with
  | progress h => exact h.sameWork.finished ▸ List.prefix_rfl
  | worker _ hw hstep =>
    refine List.IsPrefix.map Prod.fst (?_ : s.daemon.finished <+: _)
    cases hstep.effect (tame _ (List.mem_of_getElem? hw)) with
    | take _ _ _ _ hfinished => exact hfinished ▸ List.prefix_rfl
    | finish _ _ _ _ _ hfinished => exact hfinished ▸ List.prefix_append ..
    | keep _ _ _ hfinished => exact hfinished ▸ List.prefix_rfl
  | control _ h => exact h.sameJobs.finished ▸ List.prefix_rfl
  | _ => exact List.prefix_rfl

/-- A submission stays that of its job. -/
theorem Change.call {ticket : Ticket} {c : Submission} (h : Change s t)
    (hc : s.calls[ticket]? = some c) : ∃ c', t.calls[ticket]? = some c' ∧ c'.job = c.job := by
  have appended : ∀ c', (s.calls ++ [c'])[ticket]? = some c := fun c' => by
    rwa [List.getElem?_append_left (List.getElem?_eq_some_iff.1 hc).1]
  have gone : ∀ {ticket' : Ticket} {job : Job} {stage stage' : Stage},
      s.calls[ticket']? = some ⟨job, stage⟩ →
      ∃ c', (s.calls.set ticket' ⟨job, stage'⟩)[ticket]? = some c' ∧ c'.job = c.job := by
    intro ticket' job stage stage' hcall
    by_cases hticket : ticket' = ticket
    · subst hticket
      obtain rfl := Option.some.inj (hcall.symm.trans hc)
      exact ⟨_, List.getElem?_set_self (List.getElem?_eq_some_iff.1 hc).1, rfl⟩
    · exact ⟨c, (List.getElem?_set_ne hticket).trans hc, rfl⟩
  cases h with
  | progress h =>
    cases h with
    | refuse => exact ⟨c, appended _, rfl⟩
    | come => exact ⟨c, appended _, rfl⟩
    | offer => exact ⟨c, appended _, rfl⟩
    | count hcall _ => exact gone hcall
    | turnAway hcall => exact gone hcall
    | send hcall => exact gone hcall
    | put hcall _ => exact gone hcall
    | fail hcall => exact gone hcall
    | takeBack hcall => exact gone hcall
    | abandon hcall => exact gone hcall
  | control _ h => exact ⟨c, h.sameJobs.calls ▸ hc, rfl⟩
  | _ => exact ⟨c, hc, rfl⟩

end Others

/-- Keys of jobs of a deployment only. -/
def Within (d : String) (p : Uuid × String → Bool) : Prop := ∀ key, p key = true → key.2 = d

theorem tally_le_of_within {d : String} {p : Uuid × String → Bool} (h : Within d p) (jobs : List Job) :
    tally p jobs ≤ tally (inScope d) jobs :=
  List.countP_mono_left fun _ _ hkey => decide_eq_true (h _ hkey)

theorem count_jobsOf {d : String} {key : Uuid × String} (h : key.2 = d) (jobs : List Job) :
    ((jobsOf d jobs).map Job.key).count key = tally (· == key) jobs := by
  rw [List.count, List.countP_map, jobsOf, List.countP_filter]
  refine List.countP_congr fun job _ => ?_
  simp only [Function.comp_apply, Bool.and_eq_true, beq_iff_eq, decide_eq_true_eq,
    and_iff_left_iff_imp]
  rintro rfl
  exact h

namespace Scene

variable {s t : Scene}

/-- An offer is the submission of its job, even when it is refused at once. -/
theorem offer_call (s : Scene) (job : Job) :
    ∃ c, (s.offer job).calls[s.calls.length]? = some c ∧ c.job = job := by
  unfold offer
  split
  · exact ⟨_, List.getElem?_concat_length, rfl⟩
  · exact ⟨_, List.getElem?_concat_length, rfl⟩

/-- The jobs of a deployment that had been accepted when it was found free are finished. -/
def FreeSince (s : Scene) (found : Finding) : Prop :=
  found.accepted ≤ s.accepted.length ∧ ∀ p, Within found.deployment p →
    tally p (s.accepted.take found.accepted) ≤ tally p s.finished

theorem FreeSince.change {found : Finding} (hs : s.FreeSince found) (h : Change s t)
    (tame : ∀ w ∈ s.daemon.workers, w.Tame) : t.FreeSince found := by
  obtain ⟨more, haccepted⟩ := h.accepted_prefix
  obtain ⟨more', hfinished⟩ := h.finished_prefix tame
  refine ⟨?_, fun p hp => ?_⟩
  · rw [← haccepted, List.length_append]
    exact Nat.le_add_right_of_le hs.1
  · rw [← haccepted, ← hfinished, List.take_append_of_le_length hs.1, tally_append]
    exact Nat.le_add_right_of_le (hs.2 p hp)

/-- A deployment that is not in flight has no jobs but finished ones. -/
theorem freeSince_of_contains {d : String} (ledger : s.Ledger) (accounts : s.Accounts)
    (h : s.queue.inFlight.contains d = false) : s.FreeSince ⟨d, s.accepted.length⟩ := by
  refine ⟨Nat.le_refl _, fun p hp => ?_⟩
  have none : tally (inScope d) s.inFlight = 0 := by
    rw [← accounts.counts]
    by_contra hpos
    have := (accounts.positive.contains_iff d).2 (Nat.pos_of_ne_zero hpos)
    rw [h] at this
    cases this
  rw [tally_inFlight] at none
  have hp : Within d p := hp
  have line := tally_le_of_within hp s.queue.line
  have held := tally_le_of_within hp s.held
  have handed := ledger.handed p
  rw [List.take_length, ledger.order, tally_append]
  omega

/-- What is queued or running of a deployment has been accepted since it was found free. -/
theorem FreeSince.subperm {found : Finding} (hs : s.FreeSince found) (ledger : s.Ledger) :
    ((jobsOf found.deployment (s.queue.line ++ s.held)).map Job.key).Subperm
      ((jobsOf found.deployment (s.accepted.drop found.accepted)).map Job.key) := by
  refine List.subperm_ext_iff.2 fun key hkey => ?_
  have hscope : key.2 = found.deployment := by
    obtain ⟨job, hjob, rfl⟩ := List.mem_map.1 hkey
    exact of_decide_eq_true (List.mem_filter.1 hjob).2
  have earlier := hs.2 (· == key) fun key' h => (eq_of_beq h) ▸ hscope
  have handed := ledger.handed (· == key)
  have order := congrArg (tally (· == key)) ledger.order
  rw [← List.take_append_drop found.accepted s.accepted, tally_append, tally_append] at order
  rw [count_jobsOf hscope, count_jobsOf hscope, tally_append]
  omega

end Scene

/-! ## Runs of a pass -/

/-- What holds of a scene at any time. -/
structure Scene.Kept (s : Scene) : Prop where
  pool : s.HasPool
  ledger : s.Ledger
  accounts : s.Accounts

theorem Scene.kept_opening (d : Daemon) (capacity : Nat) (p : Pool) : (opening d capacity p).Kept :=
  ⟨hasPool_opening .., ledger_opening .., accounts_opening ..⟩

theorem Scene.Kept.change {s t : Scene} (hs : s.Kept) (h : Change s t) : t.Kept :=
  ⟨h.hasPool hs.pool, hs.ledger.change h, hs.accounts.change hs.ledger.tame h⟩

theorem Scene.kept_run (d : Daemon) (capacity : Nat) (p : Pool) (moves : List Move) :
    ((opening d capacity p).run moves).Kept :=
  run_induction (fun _ _ => Kept.change) (hasPool_opening ..) (kept_opening ..) moves

namespace Pass

variable {x y : Pass}

/-- What is left of a pass offers jobs for the deployment only that was found free last, and an offer
that is under way is such a one. -/
structure Watchful (x : Pass) : Prop where
  kept : x.scene.Kept
  rest : x.rest.Meets .watchful (fun _ _ => True) (x.checked.map Finding.deployment)
  posted : ∀ ticket, x.posted = some ticket → ∃ config attempts next c,
    x.rest = .ask (.offer config attempts) next ∧ x.scene.calls[ticket]? = some c ∧
      c.job.scope = config.name
  checked : ∀ found, x.checked = some found → x.scene.FreeSince found

/-- Others change nothing of that. -/
theorem Watchful.change {t : Scene} (hx : x.Watchful) (h : Change x.scene t) :
    Watchful { x with scene := t } := by
  refine ⟨hx.kept.change h, hx.rest, fun ticket hposted => ?_, fun found hfound => ?_⟩
  · obtain ⟨config, attempts, next, c, hrest, hcall, hscope⟩ := hx.posted ticket hposted
    obtain ⟨c', hcall', hjob⟩ := h.call hcall
    exact ⟨config, attempts, next, c', hrest, hcall', hjob ▸ hscope⟩
  · exact (hx.checked found hfound).change h hx.kept.ledger.tame

/-- Only an offer is waited for. -/
theorem Watchful.posted_eq_none {r : Request} {next : r.Answer → Program _} (hx : x.Watchful)
    (hrest : x.rest = .ask r next) (hr : ∀ config attempts, r ≠ .offer config attempts) :
    x.posted = none := by
  cases hposted : x.posted with
  | none => rfl
  | some ticket =>
    obtain ⟨config, attempts, next', c, hrest', -⟩ := hx.posted ticket hposted
    obtain ⟨rfl, -⟩ := Program.ask.inj (hrest.symm.trans hrest')
    exact absurd rfl (hr config attempts)

/-- The offer is answered. -/
theorem Watchful.answered {config : Deployment} {attempts : UInt32}
    {next : Except JobError Uuid → Program _} (hx : x.Watchful)
    (hrest : x.rest = .ask (.offer config attempts) next) (answer : Except JobError Uuid) :
    Watchful { x with rest := next answer, posted := none } := by
  have meets := hx.rest
  rw [hrest] at meets
  exact ⟨hx.kept, meets.2 answer _ rfl, fun _ h => (nomatch h), hx.checked⟩

/-- A job is offered for the deployment that was found free last. -/
theorem Watchful.offered {config : Deployment} {attempts : UInt32}
    {next : Except JobError Uuid → Program _} (hx : x.Watchful)
    (hrest : x.rest = .ask (.offer config attempts) next) :
    let (job, daemon) := x.scene.daemon.newRollout config attempts
    Watchful { x with
      scene := (x.scene.elsewhere daemon).offer job
      posted := some x.scene.calls.length } := by
  have moved := (hx.change (.other (x.scene.daemon.newRollout config attempts).2)).change
    (.progress (Scene.progress_offer _ (x.scene.daemon.newRollout config attempts).1))
  refine ⟨moved.kept, moved.rest, fun ticket hticket => ?_, moved.checked⟩
  obtain rfl := Option.some.inj hticket
  obtain ⟨c, hc, hjob⟩ := Scene.offer_call (x.scene.elsewhere (x.scene.daemon.newRollout config attempts).2)
    (x.scene.daemon.newRollout config attempts).1
  exact ⟨config, attempts, next, c, hrest, hc, hjob ▸ rfl⟩

/-- The watcher asks whether a deployment is busy. -/
theorem Watchful.asked {d : String} {next : Bool → Program _} (hx : x.Watchful)
    (hrest : x.rest = .ask (.isBusy d) next) {busy : Bool}
    (hbusy : x.scene.queue.inFlight.contains d = busy) :
    Watchful { x with
      rest := next busy
      checked := if busy then x.checked else some ⟨d, x.scene.accepted.length⟩ } := by
  have meets := hx.rest
  rw [hrest] at meets
  refine ⟨hx.kept, meets.2 busy _ ?_, fun ticket hticket => ?_, fun found hfound => ?_⟩
  · cases busy <;> rfl
  · rw [hx.posted_eq_none hrest nofun] at hticket
    cases hticket
  · cases busy with
    | true => exact hx.checked found hfound
    | false =>
      obtain rfl := Option.some.inj hfound
      exact Scene.freeSince_of_contains hx.kept.ledger hx.kept.accounts hbusy

/-- The watcher asks for something that concerns neither queue nor pool. -/
theorem Watchful.served {r : Request} {next : r.Answer → Program _} (hx : x.Watchful)
    (hrest : x.rest = .ask r next) (hr : r.concernsQueue = false) :
    Watchful { x with
      scene := x.scene.elsewhere (x.scene.daemon.serve r).2
      rest := next (x.scene.daemon.serve r).1 } := by
  have meets := hx.rest
  rw [hrest] at meets
  have moved := hx.change (.other (x.scene.daemon.serve r).2)
  refine ⟨moved.kept, meets.2 _ _ ?_, fun ticket hticket => ?_, moved.checked⟩
  · cases r with
    | isBusy d => cases hr
    | _ => rfl
  · rw [hx.posted_eq_none hrest (fun _ _ h => by rw [h] at hr; cases hr)] at hticket
    cases hticket

theorem Watchful.poll (hx : x.Watchful) (h : x.poll? = some y) : y.Watchful := by
  unfold poll? at h
  cases hrest : x.rest with
  | done outcome => simp [hrest] at h
  | ask r next =>
    cases r with
    | offer config attempts =>
      cases hposted : x.posted with
      | none =>
        simp only [hrest, hposted] at h
        obtain rfl := Option.some.inj h
        have offered := hx.offered hrest
        rw [hrest] at offered
        exact offered
      | some ticket =>
        simp only [hrest, hposted] at h
        obtain ⟨c, -, h⟩ := Option.bind_eq_some_iff.1 h
        obtain ⟨answer, -, h⟩ := Option.bind_eq_some_iff.1 h
        obtain rfl := Option.some.inj h
        exact hx.answered hrest answer
    | isBusy d =>
      simp only [hrest] at h
      obtain rfl := Option.some.inj h
      exact hx.asked hrest rfl
    | _ =>
      simp only [hrest] at h
      obtain rfl := Option.some.inj h
      exact hx.served hrest rfl

theorem Watchful.step {turn : Turn} (hx : x.Watchful) (h : x.step? turn = some y) : y.Watchful := by
  cases turn with
  | watcher => exact hx.poll h
  | others m =>
    obtain ⟨t, ht, rfl⟩ := Option.map_eq_some_iff.1 h
    obtain ⟨pool, hpool⟩ := hx.kept.pool
    exact hx.change (Scene.change_of_step? hpool ht)

theorem Watchful.run (hx : x.Watchful) (turns : List Turn) : (x.run turns).Watchful := by
  induction turns generalizing x with
  | nil => exact hx
  | cons turn rest ih =>
    change Watchful (run ((x.step? turn).getD x) rest)
    refine ih ?_
    cases hstep : x.step? turn with
    | none => exact hx
    | some y => exact hx.step hstep

theorem watchful_starting {s : Scene} (hs : s.Kept) (attempts : UInt32)
    (deployments : List Deployment) : (starting s attempts deployments).Watchful :=
  ⟨hs, Program.Meets.mono (Drift.meets_poll attempts deployments none) fun _ _ _ => trivial,
    fun _ h => (nomatch h), fun _ h => (nomatch h)⟩

/-- The corrective job that was offered is put into the line next. -/
def Puts (x : Pass) (job : Job) : Prop :=
  ∃ ticket, x.posted = some ticket ∧ x.scene.calls[ticket]? = some ⟨job, .offering⟩ ∧
    (x.scene.queue.trySend job).isOk = true

/-- Whoever acts during a pass: what is queued or running of a deployment when a job is put for it was
accepted after the deployment was found free; if nothing was, nothing is. -/
theorem put_after_check (d : Daemon) (capacity : Nat) (p : Pool) (moves : List Move)
    (attempts : UInt32) (deployments : List Deployment) (turns : List Turn) (job : Job)
    (hputs : ((starting ((Scene.opening d capacity p).run moves) attempts deployments).run turns).Puts
      job) :
    let x := (starting ((Scene.opening d capacity p).run moves) attempts deployments).run turns
    ∃ found, x.checked = some found ∧ found.deployment = job.scope ∧
      ((jobsOf job.scope (x.scene.queue.line ++ x.scene.held)).map Job.key).Subperm
        ((jobsOf job.scope (x.scene.accepted.drop found.accepted)).map Job.key) ∧
      (jobsOf job.scope (x.scene.accepted.drop found.accepted) = [] →
        jobsOf job.scope (x.scene.queue.line ++ x.scene.held) = []) := by
  intro x
  have hx : x.Watchful :=
    (watchful_starting (Scene.kept_run d capacity p moves) attempts deployments).run turns
  obtain ⟨ticket, hposted, hcall, -⟩ := hputs
  obtain ⟨config, attempts', next, c, hrest, hcall', hscope⟩ := hx.posted ticket hposted
  obtain rfl := Option.some.inj (hcall'.symm.trans hcall)
  have meets := hx.rest
  rw [hrest] at meets
  obtain ⟨found, hfound, hname⟩ := Option.map_eq_some_iff.1 (meets.1 config attempts' rfl)
  have hdeployment : found.deployment = job.scope := hname.trans hscope.symm
  have subperm := (hx.checked found hfound).subperm hx.kept.ledger
  rw [hdeployment] at subperm
  refine ⟨found, hfound, hdeployment, subperm, fun hnone => ?_⟩
  rw [hnone, List.map_nil, List.subperm_nil] at subperm
  exact List.map_eq_nil_iff.1 subperm

/-- A deployment of which no container runs. -/
def missing : Deployment := .new "api" "nginx"

/-- One worker, a queue of four, and a pass over the deployment. -/
def beginning : Pass := starting ((Scene.opening {} 4 (.new 1)).run Scene.launching) 1 [missing]

/-- The job that is offered for it; one stamp was given before. -/
def corrective : Job := (Daemon.newRollout { stamps := 1 } missing 1).1

/-- The watcher finds the deployment free, lists its containers, and offers a job. -/
def undisturbed : Pass := beginning.run [.watcher, .watcher, .watcher]

theorem put_after_check_undisturbed :
    undisturbed.Puts corrective ∧
      jobsOf "api" (undisturbed.scene.queue.line ++ undisturbed.scene.held) = [] := by
  have hputs : undisturbed.Puts corrective :=
    ⟨0, by decide +kernel, by decide +kernel, by decide +kernel⟩
  obtain ⟨found, -, -, -, hfree⟩ :=
    put_after_check {} 4 (.new 1) Scene.launching 1 [missing] [.watcher, .watcher, .watcher] corrective
      hputs
  refine ⟨hputs, hfree ?_⟩
  have hnone : undisturbed.scene.accepted = [] := by decide +kernel
  change jobsOf _ (undisturbed.scene.accepted.drop _) = []
  rw [hnone, List.drop_nil]
  rfl

/-- A teardown is accepted after the deployment was found free, and before a job is offered for it. -/
def overtaken : Pass :=
  beginning.run [.watcher, .others (.offer (.delete ⟨7⟩ .epoch missing 1)), .others (.advance 0),
    .watcher, .watcher]

/-- A job may be put behind a teardown that the watcher did not see. -/
theorem put_beside_others :
    ¬ (∀ job, overtaken.Puts job →
      jobsOf job.scope (overtaken.scene.queue.line ++ overtaken.scene.running) = []) ∧
    (overtaken.run [.others (.advance 1)]).scene.queue.line.map Job.kind = [.delete, .create] := by
  refine ⟨fun h => ?_, by decide +kernel⟩
  have hputs : overtaken.Puts corrective :=
    ⟨1, by decide +kernel, by decide +kernel, by decide +kernel⟩
  have hnone := congrArg List.length (h corrective hputs)
  revert hnone
  decide +kernel

end Pass

end Orchestrator
