import Orchestrator.Proofs.Drift.Round
import Orchestrator.Proofs.Store.Saved

/-!
# What a pass makes of each deployment

A pass goes over the saved deployments in the order of their names, with nobody else at work. What it finds
of a deployment depends on the queue as it was in the beginning, on what the engine lists for it, and on how
many jobs the pass has queued by then: each takes a slot, and none is for a deployment that comes later.

Main statement: `classifies`, a pass finds one thing of each deployment, by this rule, and queues the jobs of
those that it found to be queued.
-/
namespace Orchestrator

open Engine

/-- What an engine lists for a label and its value. -/
abbrev Listing : Type := String → String → Except EngineError (List Container)

namespace Drift

/-- What is found of deployments in turn by a rule, which is told how many jobs were queued before. -/
def classify (rule : Nat → Deployment → Drift) (queued : Nat) : List Deployment → List (Deployment × Drift)
  | [] => []
  | d :: rest =>
    (d, rule queued d) ::
      classify rule (queued + if rule queued d = .enqueued then 1 else 0) rest

/-- The report of what was found. -/
def report (found : List (Deployment × Drift)) : DriftReport := found.map fun e => (e.1.name, e.2)

/-- The deployments of which jobs were queued. -/
def queued (found : List (Deployment × Drift)) : List Deployment :=
  (found.filter fun e => e.2 = .enqueued).map Prod.fst

variable {rule : Nat → Deployment → Drift} {n : Nat} {todo : List Deployment}

theorem map_fst_classify (rule : Nat → Deployment → Drift) (n : Nat) (todo : List Deployment) :
    (classify rule n todo).map Prod.fst = todo := by
  induction todo generalizing n with
  | nil => rfl
  | cons d rest ih => rw [classify, List.map_cons, ih]

theorem queued_cons (d : Deployment) (drift : Drift) (found : List (Deployment × Drift)) :
    queued ((d, drift) :: found) = (if drift = .enqueued then [d] else []) ++ queued found := by
  by_cases h : drift = .enqueued
  · simp [queued, h]
  · simp [queued, h]

/-- Each deployment is classified by the rule, after as many jobs as were queued before it. -/
theorem classify_rule {before after : List (Deployment × Drift)} {e : Deployment × Drift}
    (h : classify rule n todo = before ++ e :: after) :
    e.2 = rule (n + (queued before).length) e.1 := by
  induction todo generalizing n before with
  | nil => simp [classify] at h
  | cons d rest ih =>
    rw [classify] at h
    cases before with
    | nil =>
      obtain ⟨rfl, -⟩ := List.cons.inj h
      rfl
    | cons first before =>
      obtain ⟨rfl, hrest⟩ := List.cons.inj h
      rw [ih hrest, queued_cons]
      by_cases hfound : rule n d = .enqueued
      · simp only [if_pos hfound, List.length_append, List.length_cons, List.length_nil]
        congr 1
        omega
      · simp only [if_neg hfound, List.length_append, List.length_nil]
        congr 1
        omega

/-- Without some deployments for which no job is queued, the others are classified as they are with them. -/
theorem classify_filter (keep : Deployment → Bool)
    (h : ∀ e ∈ classify rule n todo, keep e.1 = false → e.2 ≠ .enqueued) :
    classify rule n (todo.filter keep) = (classify rule n todo).filter fun e => keep e.1 := by
  induction todo generalizing n with
  | nil => rfl
  | cons d rest ih =>
    rw [classify] at h ⊢
    obtain ⟨hfirst, hrest⟩ := List.forall_mem_cons.1 h
    by_cases hkeep : keep d = true
    · rw [List.filter_cons_of_pos hkeep, classify, ih hrest]
      exact (List.filter_cons_of_pos (p := fun e : Deployment × Drift => keep e.1) hkeep).symm
    · have hno : rule n d ≠ .enqueued := hfirst (by simpa using hkeep)
      rw [if_neg hno, Nat.add_zero] at hrest ⊢
      rw [List.filter_cons_of_neg hkeep, ih hrest]
      exact (List.filter_cons_of_neg (p := fun e : Deployment × Drift => keep e.1) hkeep).symm

/-- A report says one of four things of each deployment. -/
theorem perm_names (r : DriftReport) :
    (r.names .enqueued ++ r.names .satisfied ++ r.names .skipped ++ r.names .failed).Perm
      (r.map Prod.fst) := by
  have hfilter : (r.filter (fun e => e.2 = .enqueued) ++ r.filter (fun e => e.2 = .satisfied)
      ++ r.filter (fun e => e.2 = .skipped) ++ r.filter (fun e => e.2 = .failed)).Perm r := by
    rw [List.perm_iff_count]
    rintro ⟨name, drift⟩
    have hcount (k : Drift) : (r.filter fun e => e.2 = k).count (name, drift)
        = if drift = k then r.count (name, drift) else 0 := by
      by_cases h : drift = k
      · rw [if_pos h, List.count_filter (by simpa using h)]
      · rw [if_neg h, List.count_eq_zero]
        intro hmem
        exact h (of_decide_eq_true (List.mem_filter.1 hmem).2)
    rw [List.count_append, List.count_append, List.count_append, hcount, hcount, hcount, hcount]
    cases drift <;> simp
  simpa [DriftReport.names] using hfilter.map Prod.fst

/-- What is reported stands in the order of the pass. -/
theorem names_sublist (r : DriftReport) (k : Drift) : (r.names k).Sublist (r.map Prod.fst) :=
  List.filter_sublist.map Prod.fst

end Drift

/-! ## A pass of its own -/

/-- A job of one deployment does not make another one busy. -/
theorem InFlight.contains_acquire_of_ne {f : InFlight} {name scope : String} (h : name ≠ scope) :
    (f.acquire scope).contains name = f.contains name := by
  unfold contains acquire SortedMap.contains
  rw [SortedMap.find?_insert, if_neg (by simpa using h)]

namespace Daemon

/-- What is found of a deployment that lacks containers if a pass has queued a number of jobs before. -/
def shortfall (s : Daemon) (queued : Nat) : Drift :=
  if s.queue.isClosed then .failed
  else if s.queue.capacity ≤ s.queue.taken + queued then .skipped
  else .enqueued

/-- What is found of a deployment then. -/
def rule (s : Daemon) (listing : Listing) (queued : Nat) (d : Deployment) : Drift :=
  if s.queue.inFlight.contains d.name then .skipped
  else
    match listing Container.ownerLabel d.name with
    | .error _ => .failed
    | .ok containers =>
      if d.scale.toNat ≤ (containers.filter Container.isRunning).length then .satisfied
      else s.shortfall queued

/-- The engine lists what it lists, and all else is answered by the daemon. -/
def serveListed (listing : Listing) : (r : Request) → Daemon → r.Answer × Daemon
  | .engine (.list label value), s => ((listing label value).mapError .error, s)
  | r, s => s.serve r

/-- A pass over the saved deployments, with nobody else at work. -/
def pass (s : Daemon) (listing : Listing) :
    Except StoreError (Except (Failure Empty) DriftReport) × Daemon :=
  match Round.begin? s with
  | .error e => (.error e, s)
  | .ok round =>
    let (outcome, t) := round.rest.run (serveListed listing) round.daemon
    (.ok outcome, t)

section Answers

variable {s u t v : Daemon} {listing : Listing} {attempts : UInt32} {queued : Nat} {d : Deployment}
  {containers : List Container}

theorem rule_busy (h : s.queue.inFlight.contains d.name = true) : s.rule listing queued d = .skipped :=
  if_pos h

theorem rule_error {e : EngineError} (hidle : s.queue.inFlight.contains d.name = false)
    (hlist : listing Container.ownerLabel d.name = .error e) : s.rule listing queued d = .failed := by
  unfold rule
  rw [hidle, hlist]
  rfl

theorem rule_satisfied (hidle : s.queue.inFlight.contains d.name = false)
    (hlist : listing Container.ownerLabel d.name = .ok containers)
    (hrunning : d.scale.toNat ≤ (containers.filter Container.isRunning).length) :
    s.rule listing queued d = .satisfied := by
  unfold rule
  rw [hidle, hlist]
  exact if_pos hrunning

theorem rule_lacking (hidle : s.queue.inFlight.contains d.name = false)
    (hlist : listing Container.ownerLabel d.name = .ok containers)
    (hrunning : ¬ d.scale.toNat ≤ (containers.filter Container.isRunning).length) :
    s.rule listing queued d = s.shortfall queued := by
  unfold rule
  rw [hidle, hlist]
  exact if_neg hrunning

/-! What the pass does of each deployment is decided by the same answers. -/

theorem run_check (u : Daemon) : (Drift.check attempts d).run.run (serveListed listing) u =
    if u.queue.inFlight.contains d.name then (.ok .skipped, u)
    else (Drift.reconcile attempts d).run.run (serveListed listing) u := by
  change (if u.queue.inFlight.contains d.name = true then _ else _ : Task Empty Drift).run.run
    (serveListed listing) u = _
  split <;> rfl

theorem run_reconcile (u : Daemon) : (Drift.reconcile attempts d).run.run (serveListed listing) u =
    match listing Container.ownerLabel d.name with
    | .error _ => (.ok .failed, u)
    | .ok containers =>
      if d.scale.toNat ≤ (containers.filter Container.isRunning).length then (.ok .satisfied, u)
      else (.ok (Drift.ofOffer (u.serve (.offer d attempts)).1), (u.serve (.offer d attempts)).2) := by
  have hlist : (Fleet.listOwned d.name).run.run (serveListed listing) u =
      (((listing Container.ownerLabel d.name).mapError Failure.error).mapError
        (Failure.map ContainerError.engine), u) := rfl
  unfold Drift.reconcile
  rw [ExceptT.run_mk, Program.run_bind, hlist]
  cases listing Container.ownerLabel d.name with
  | error e => rfl
  | ok containers =>
    by_cases hrunning : d.scale.toNat ≤ (containers.filter Container.isRunning).length
    · simp only [Except.mapError, ge_iff_le, if_pos hrunning]
      rfl
    · simp only [Except.mapError, ge_iff_le, if_neg hrunning]
      rfl

theorem run_poll_cons {rest : List Deployment} {found : Drift} {report : DriftReport}
    (hcheck : (Drift.check attempts d).run.run (serveListed listing) u = (.ok found, t))
    (hrest : (Drift.poll attempts rest).run.run (serveListed listing) t = (.ok report, v)) :
    (Drift.poll attempts (d :: rest)).run.run (serveListed listing) u
      = (.ok ((d.name, found) :: report), v) := by
  unfold Drift.poll
  rw [ExceptT.run_bind, Program.run_bind, hcheck]
  dsimp only
  rw [ExceptT.run_bind, Program.run_bind, hrest]
  rfl

end Answers

/-- The job that a pass queues for a deployment. -/
def IsRepair (s : Daemon) (d : Deployment) (job : Job) : Prop :=
  ∃ id now, job = Job.create id now d s.driftAttempts

/-- A pass that began in `s` and has queued jobs for these deployments has come to `u`. -/
structure Midway (s u : Daemon) (queued : List Deployment) : Prop where
  capacity : u.queue.capacity = s.queue.capacity
  isClosed : u.queue.isClosed = s.queue.isClosed
  granted : u.queue.granted = s.queue.granted
  busy : ∀ name, name ∉ queued.map Deployment.name →
    u.queue.inFlight.contains name = s.queue.inFlight.contains name
  line : ∃ jobs, u.queue.line = s.queue.line ++ jobs ∧ List.Forall₂ s.IsRepair queued jobs

namespace Midway

variable {s u : Daemon} {queued : List Deployment} {d : Deployment} {listing : Listing}

theorem start (s : Daemon) : s.Midway s [] where
  capacity := rfl
  isClosed := rfl
  granted := rfl
  busy _ _ := rfl
  line := ⟨[], (List.append_nil _).symm, .nil⟩

/-- Nothing but stamps and identifiers is used up. -/
theorem of_queue {t : Daemon} (h : s.Midway u queued) (hqueue : t.queue = u.queue) :
    s.Midway t queued := by
  constructor
  · rw [hqueue, h.capacity]
  · rw [hqueue, h.isClosed]
  · rw [hqueue, h.granted]
  · rw [hqueue]
    exact h.busy
  · rw [hqueue]
    exact h.line

/-- A slot is free just if the jobs that were queued have left one. -/
theorem hasSlot_iff (h : s.Midway u queued) (hopen : s.queue.isClosed = false) :
    u.queue.hasSlot = true ↔ ¬ s.queue.capacity ≤ s.queue.taken + queued.length := by
  obtain ⟨jobs, hline, hjobs⟩ := h.line
  have hlength := hjobs.length_eq
  rw [Queue.hasSlot, Queue.taken, hopen, h.capacity, h.granted, hline, List.length_append,
    decide_eq_true_iff]
  simp only [Bool.false_eq_true, if_false]
  omega

/-- A job is put at the end of the line. -/
theorem pushed {id : Uuid} {now : Instant} {t : Daemon} (h : s.Midway u queued)
    (hqueue : t.queue = u.queue.push (Job.create id now d s.driftAttempts)) :
    s.Midway t (queued ++ [d]) := by
  obtain ⟨jobs, hline, hjobs⟩ := h.line
  constructor
  · rw [hqueue, ← h.capacity]
    rfl
  · rw [hqueue, ← h.isClosed]
    rfl
  · rw [hqueue, ← h.granted]
    rfl
  · intro name hname
    rw [List.map_append, List.mem_append, not_or] at hname
    obtain ⟨hold, hnew⟩ := hname
    have hne : name ≠ d.name := fun heq => hnew (List.mem_singleton.2 heq)
    rw [hqueue, ← h.busy name hold]
    exact InFlight.contains_acquire_of_ne hne
  · refine ⟨jobs ++ [Job.create id now d s.driftAttempts], ?_, ?_⟩
    · rw [hqueue, ← List.append_assoc, ← hline]
      rfl
    · exact List.rel_append hjobs (.cons ⟨id, now, rfl⟩ .nil)

/-- A job that is offered is queued if the queue is open and a slot is left. -/
theorem offer (h : s.Midway u queued) (id : Uuid) (now : Instant) (hname : isDeploymentName d.name = true)
    (hattempts : 1 ≤ s.driftAttempts) :
    Drift.ofOffer (u.offer (Job.create id now d s.driftAttempts)).1 = s.shortfall queued.length ∧
      s.Midway (u.offer (Job.create id now d s.driftAttempts)).2
        (queued ++ if s.shortfall queued.length = .enqueued then [d] else []) := by
  have hvalid := @Job.validate_create id now d s.driftAttempts hname hattempts
  unfold Daemon.offer Queue.offer shortfall
  rw [hvalid]
  dsimp only
  rw [h.isClosed]
  by_cases hclosed : s.queue.isClosed = true
  · rw [if_pos hclosed, if_pos hclosed]
    refine ⟨rfl, ?_⟩
    simpa using h.of_queue rfl
  · have hslot := h.hasSlot_iff (Bool.eq_false_iff.2 hclosed)
    rw [if_neg hclosed, if_neg hclosed]
    by_cases hfull : s.queue.capacity ≤ s.queue.taken + queued.length
    · rw [if_pos hfull, if_neg fun hfree => hslot.1 hfree hfull]
      refine ⟨rfl, ?_⟩
      simpa using h.of_queue rfl
    · rw [if_neg hfull, if_pos (hslot.2 hfull)]
      exact ⟨rfl, h.pushed rfl⟩

/-- A deployment is looked at by the rule. -/
theorem check (h : s.Midway u queued) (listing : Listing) (hnew : d.name ∉ queued.map Deployment.name)
    (hname : isDeploymentName d.name = true) (hattempts : 1 ≤ s.driftAttempts) :
    ∃ t, (Drift.check s.driftAttempts d).run.run (serveListed listing) u
        = (.ok (s.rule listing queued.length d), t) ∧
      s.Midway t (queued ++ if s.rule listing queued.length d = .enqueued then [d] else []) := by
  have hbusy := h.busy d.name hnew
  by_cases hflight : s.queue.inFlight.contains d.name = true
  · rw [rule_busy hflight, run_check, hbusy, if_pos hflight]
    exact ⟨u, rfl, by simpa using h⟩
  · rw [run_check, hbusy, if_neg hflight, run_reconcile]
    rw [Bool.not_eq_true] at hflight
    cases hlist : listing Container.ownerLabel d.name with
    | error e =>
      rw [rule_error hflight hlist]
      exact ⟨u, rfl, by simpa using h⟩
    | ok containers =>
      by_cases hrunning : d.scale.toNat ≤ (containers.filter Container.isRunning).length
      · rw [rule_satisfied hflight hlist hrunning]
        exact ⟨u, if_pos hrunning, by simpa using h⟩
      · rw [rule_lacking hflight hlist hrunning]
        have hu : s.Midway u.newId.2.stamp.2 queued := h.of_queue rfl
        obtain ⟨hfound, hmidway⟩ := hu.offer u.newId.1 u.newId.2.stamp.1 hname hattempts
        refine ⟨_, (if_neg hrunning).trans ?_, hmidway⟩
        rw [← hfound]
        rfl

/-- Deployments are looked at by the rule, one after another. -/
theorem poll {todo : List Deployment} (h : s.Midway u queued) (listing : Listing)
    (hnodup : (todo.map Deployment.name).Nodup)
    (hnew : ∀ d ∈ todo, d.name ∉ queued.map Deployment.name)
    (hnamed : ∀ d ∈ todo, isDeploymentName d.name = true) (hattempts : 1 ≤ s.driftAttempts) :
    ∃ t, (Drift.poll s.driftAttempts todo).run.run (serveListed listing) u
        = (.ok (Drift.report (Drift.classify (s.rule listing) queued.length todo)), t) ∧
      s.Midway t (queued ++ Drift.queued (Drift.classify (s.rule listing) queued.length todo)) := by
  induction todo generalizing u queued with
  | nil => exact ⟨u, rfl, by simpa [Drift.classify, Drift.queued] using h⟩
  | cons d rest ih =>
    obtain ⟨hfirst, hnodup⟩ := List.nodup_cons.1 hnodup
    obtain ⟨hnewd, hnew⟩ := List.forall_mem_cons.1 hnew
    obtain ⟨hnamedd, hnamed⟩ := List.forall_mem_cons.1 hnamed
    obtain ⟨t, hcheck, ht⟩ := h.check listing hnewd hnamedd hattempts
    -- a job that was queued just now is for this name, and those that are left have others
    have hlater : ∀ e ∈ rest, e.name ∉ (queued ++ if s.rule listing queued.length d = .enqueued
        then [d] else []).map Deployment.name := by
      intro e he hmem
      rw [List.map_append, List.mem_append] at hmem
      rcases hmem with hmem | hmem
      · exact hnew e he hmem
      · have hname : e.name = d.name := by
          by_cases hfound : s.rule listing queued.length d = .enqueued
          · simpa [hfound] using hmem
          · simp [hfound] at hmem
        exact hfirst (hname ▸ List.mem_map_of_mem he)
    obtain ⟨v, hrest, hv⟩ := ih ht hnodup hlater hnamed
    have hlength : (queued ++ if s.rule listing queued.length d = .enqueued then [d] else []).length
        = queued.length + if s.rule listing queued.length d = .enqueued then 1 else 0 := by
      by_cases hfound : s.rule listing queued.length d = .enqueued <;> simp [hfound]
    rw [hlength] at hrest hv
    refine ⟨v, ?_, ?_⟩
    · rw [run_poll_cons hcheck hrest]
      rfl
    · rwa [Drift.classify, Drift.queued_cons, ← List.append_assoc]

end Midway

/-- What a pass that began in `s` and ended in `t` has found of the saved deployments: one thing of each, by
the rule, so that the lists of its report share the names out among them, each in the order of names; and
what it has put at the end of the line, one job for each deployment that it found to be queued, in order. -/
structure Classified (s : Daemon) (listing : Listing) (saved : List Deployment)
    (found : List (Deployment × Drift)) (t : Daemon) : Prop where
  each : found.map Prod.fst = saved
  byRule : ∀ before d drift after, found = before ++ (d, drift) :: after →
    drift = s.rule listing (Drift.queued before).length d
  shared : ((Drift.report found).names .enqueued ++ (Drift.report found).names .satisfied ++
    (Drift.report found).names .skipped ++ (Drift.report found).names .failed).Perm
      (saved.map Deployment.name)
  sorted : ∀ k, ((Drift.report found).names k).Pairwise (· < ·)
  jobs : ∃ jobs, t.queue.line = s.queue.line ++ jobs ∧ List.Forall₂ s.IsRepair (Drift.queued found) jobs ∧
    jobs.map Job.scope = (Drift.report found).names .enqueued

theorem scopes_eq {s : Daemon} {found : List (Deployment × Drift)} {jobs : List Job}
    (h : List.Forall₂ s.IsRepair (Drift.queued found) jobs) :
    jobs.map Job.scope = (Drift.report found).names .enqueued := by
  have hnames : (Drift.report found).names .enqueued = (Drift.queued found).map Deployment.name := by
    simp [DriftReport.names, Drift.report, Drift.queued, List.filter_map, Function.comp_def]
  rw [hnames]
  generalize Drift.queued found = deployments at h
  induction h with
  | nil => rfl
  | cons hjob _ ih =>
    obtain ⟨id, now, rfl⟩ := hjob
    rw [List.map_cons, List.map_cons, ih]
    rfl

/-- What a pass finds, and the daemon it leaves. -/
theorem pass_eq (s : Daemon) (listing : Listing) {saved : List Deployment} (hsaved : s.store.Holds saved)
    (hattempts : 1 ≤ s.driftAttempts) :
    ∃ t, s.pass listing = (.ok (.ok (Drift.report (Drift.classify (s.rule listing) 0 saved))), t) ∧
      s.Midway t (Drift.queued (Drift.classify (s.rule listing) 0 saved)) := by
  obtain ⟨t, hpoll, ht⟩ := (Midway.start s).poll listing hsaved.nodup
    (fun d _ hd => by cases hd) hsaved.named hattempts
  refine ⟨t, ?_, ht⟩
  unfold pass
  rw [Round.begin?, hsaved.deployments]
  dsimp only [Except.map]
  rw [hpoll]
  rfl

theorem map_fst_report (s : Daemon) (listing : Listing) (saved : List Deployment) :
    (Drift.report (Drift.classify (s.rule listing) 0 saved)).map Prod.fst = saved.map Deployment.name := by
  have heach := Drift.map_fst_classify (s.rule listing) 0 saved
  calc (Drift.report (Drift.classify (s.rule listing) 0 saved)).map Prod.fst
      = ((Drift.classify (s.rule listing) 0 saved).map Prod.fst).map Deployment.name := by
        rw [Drift.report, List.map_map, List.map_map]
        rfl
    _ = saved.map Deployment.name := by rw [heach]

/-- The others are found to be what they are without a deployment that failed. -/
theorem report_without {s : Daemon} {listing : Listing} {saved : List Deployment}
    (hnodup : (saved.map Deployment.name).Nodup) {name : String}
    (hfailed : name ∈ (Drift.report (Drift.classify (s.rule listing) 0 saved)).names .failed) :
    Drift.report (Drift.classify (s.rule listing) 0 (saved.filter fun d => d.name ≠ name))
      = (Drift.report (Drift.classify (s.rule listing) 0 saved)).filter fun e => e.1 ≠ name := by
  obtain ⟨failed, hmem, rfl⟩ := List.mem_map.1 hfailed
  obtain ⟨hmem, hdrift⟩ := List.mem_filter.1 hmem
  rw [← map_fst_report s listing] at hnodup
  -- the failed deployment took no slot, and it is the only one of its name
  have hothers : ∀ e ∈ Drift.classify (s.rule listing) 0 saved, decide (e.1.name ≠ failed.1) = false →
      e.2 ≠ .enqueued := by
    intro e he hname
    have hsame : (e.1.name, e.2) = failed :=
      List.inj_on_of_nodup_map hnodup (List.mem_map_of_mem he) hmem (by simpa using hname)
    rw [← hsame] at hdrift
    rw [of_decide_eq_true hdrift]
    exact Drift.noConfusion
  rw [Drift.classify_filter (fun d => d.name ≠ failed.1) hothers, Drift.report, Drift.report,
    List.filter_map]
  rfl

/-- **What a pass makes of each deployment.** It finds one thing of each saved deployment, by the rule, and
queues jobs for just those that it found to be queued. The others are found to be what they would be without
a deployment that failed. If the deployments cannot be read, nothing is done. -/
theorem classifies (s : Daemon) (listing : Listing) :
    (∀ saved, s.store.Holds saved → 1 ≤ s.driftAttempts →
      ∃ found t, s.pass listing = (.ok (.ok (Drift.report found)), t) ∧
        s.Classified listing saved found t ∧
        ∀ name ∈ (Drift.report found).names .failed,
          ({ s with store := (s.store.deleteDeployment name).2 }.pass listing).1
            = .ok (.ok ((Drift.report found).filter fun e => e.1 ≠ name))) ∧
    ∀ e, s.store.deployments = .error e → s.pass listing = (.error e, s) := by
  refine ⟨fun saved hsaved hattempts => ?_, fun e he => ?_⟩
  · obtain ⟨t, hpass, ht⟩ := pass_eq s listing hsaved hattempts
    refine ⟨_, t, hpass, ?_, fun name hname => ?_⟩
    · have hnames := map_fst_report s listing saved
      refine ⟨Drift.map_fst_classify _ _ _, fun before d drift after h => ?_, ?_, fun k => ?_, ?_⟩
      · have hrule := Drift.classify_rule h
        rwa [Nat.zero_add] at hrule
      · rw [← hnames]
        exact Drift.perm_names _
      · refine List.Pairwise.sublist (Drift.names_sublist _ k) ?_
        rw [hnames, List.pairwise_map]
        exact hsaved.pairwise
      · obtain ⟨jobs, hline, hjobs⟩ := ht.line
        exact ⟨jobs, hline, hjobs, scopes_eq hjobs⟩
    · obtain ⟨t', hpass', -⟩ := pass_eq { s with store := (s.store.deleteDeployment name).2 } listing
        (hsaved.deleteDeployment name) hattempts
      rw [hpass', ← report_without hsaved.nodup hname]
      rfl
  · unfold pass
    rw [Round.begin?, he]
    rfl

/-- Three deployments without containers are saved, and the queue has one slot. -/
def shorthanded : Daemon where
  store := [Deployment.new "api" "nginx", .new "db" "postgres", .new "web" "caddy"].foldl
    (fun s d => (s.saveDeployment d).2) .new
  queue := .new 1

/-- The engine does not answer for the first of them. -/
def outage : Listing := fun _ name => if name = "api" then .error (.api "unavailable") else .ok []

/-- So the second one takes the slot, and the third one is passed over. -/
theorem classifies_shorthanded :
    ∃ t, shorthanded.pass outage
        = (.ok (.ok [("api", .failed), ("db", .enqueued), ("web", .skipped)]), t) ∧
      t.queue.line.map Job.scope = ["db"] := by
  have hsaved : shorthanded.store.Holds [Deployment.new "api" "nginx", .new "db" "postgres",
      .new "web" "caddy"] := ⟨rfl, by decide +kernel⟩
  obtain ⟨found, t, hpass, hclassified, -⟩ := (classifies shorthanded outage).1 _ hsaved (by decide)
  obtain ⟨⟨_, first⟩, _, rfl, rfl, hlater⟩ := List.map_eq_cons_iff.1 hclassified.each
  obtain ⟨⟨_, second⟩, _, rfl, rfl, hlast⟩ := List.map_eq_cons_iff.1 hlater
  obtain ⟨⟨_, third⟩, _, rfl, rfl, hnone⟩ := List.map_eq_cons_iff.1 hlast
  obtain rfl := List.map_eq_nil_iff.1 hnone
  obtain rfl : first = .failed := hclassified.byRule [] _ _ _ rfl
  obtain rfl : second = .enqueued := hclassified.byRule [_] _ _ _ rfl
  obtain rfl : third = .skipped := hclassified.byRule [_, _] _ _ _ rfl
  obtain ⟨jobs, hline, -, hscopes⟩ := hclassified.jobs
  refine ⟨t, hpass, ?_⟩
  rw [hline, List.map_append, hscopes]
  rfl

end Daemon

end Orchestrator
