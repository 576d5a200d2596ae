import Mathlib.Data.List.Perm.Basic
import Orchestrator.Proofs.Scene.Changes

/-!
# Where the jobs of a scene are

Every job that was accepted waits in the line, is held by a worker or is finished. A worker's attempts
may change the job, but not its key, so this is an equation between numbers of jobs with keys of any
kind: `Ledger`, which every change keeps.
-/
namespace Orchestrator

/-! ## Counting jobs -/

/-- How many of the jobs have a key of a kind. -/
def tally (p : Uuid × String → Bool) (jobs : List Job) : Nat := jobs.countP fun job => p job.key

section Tally

variable {p : Uuid × String → Bool} {jobs jobs' : List Job}

@[simp] theorem tally_nil : tally p [] = 0 := rfl

@[simp] theorem tally_append : tally p (jobs ++ jobs') = tally p jobs + tally p jobs' :=
  List.countP_append

theorem tally_cons (job : Job) (jobs : List Job) :
    tally p (job :: jobs) = tally p [job] + tally p jobs :=
  (tally_append : tally p ([job] ++ jobs) = _)

theorem tally_singleton {job job' : Job} (h : job'.key = job.key) : tally p [job'] = tally p [job] := by
  simp [tally, h]

theorem tally_toList {a b : Option Job} (h : a.map Job.key = b.map Job.key) :
    tally p a.toList = tally p b.toList := by
  match a, b with
  | none, none => rfl
  | none, some _ => cases h
  | some _, none => cases h
  | some _, some _ => exact tally_singleton (Option.some.inj h)

theorem tally_filterMap_cons {α : Type} (f : α → Option Job) (a : α) (l : List α) :
    tally p ((a :: l).filterMap f) = tally p (f a).toList + tally p (l.filterMap f) := by
  rw [List.filterMap_cons]
  cases f a with
  | none => exact (Nat.zero_add _).symm
  | some job => exact tally_cons job _

/-- When one entry of a list changes, a count changes by what the entry counts. -/
theorem tally_filterMap_set {α : Type} {f : α → Option Job} {l : List α} {i : Nat} {a : α}
    (h : l[i]? = some a) (b : α) :
    tally p ((l.set i b).filterMap f) + tally p (f a).toList
      = tally p (l.filterMap f) + tally p (f b).toList := by
  obtain ⟨hi, rfl⟩ := List.getElem?_eq_some_iff.1 h
  have entry : ∀ c : α, ∀ l' : List α, l'.Perm (c :: l.eraseIdx i) →
      tally p (l'.filterMap f) = tally p (f c).toList + tally p ((l.eraseIdx i).filterMap f) :=
    fun c l' hl' => ((hl'.filterMap f).countP_eq _).trans (tally_filterMap_cons f c _)
  rw [entry b _ (List.set_perm_cons_eraseIdx hi b), entry _ _ (List.getElem_cons_eraseIdx_perm hi).symm]
  omega

/-- Jobs that cannot be told apart by counting have the same keys. -/
theorem perm_of_tally (h : ∀ p, tally p jobs = tally p jobs') :
    (jobs.map Job.key).Perm (jobs'.map Job.key) := by
  refine List.perm_iff_count.2 fun key => ?_
  simpa [tally, List.count, List.countP_map, Function.comp_def] using h (· == key)

end Tally

/-! ## The ledger -/

open Daemon

/-- What a worker takes it holds, and what it no longer holds is finished. -/
theorem Daemon.Effect.balance {s t : Daemon} {w w' : Worker} (h : Effect s w w' t)
    (p : Uuid × String → Bool) :
    tally p (History.taken (w.change w')) + tally p w.held?.toList + tally p (s.finished.map Prod.fst)
      = tally p w'.held?.toList + tally p (t.finished.map Prod.fst) := by
  cases h with
  | take hheld hheld' htaken _ hfinished =>
    rw [hheld, hheld', htaken, hfinished]
    rfl
  | finish hheld hheld' htaken hkey _ hfinished =>
    rw [hheld, hheld', htaken, hfinished, List.map_append, tally_append]
    have := tally_singleton (p := p) hkey
    simp only [Option.toList, tally_nil, List.map_cons, List.map_nil]
    omega
  | keep hheld htaken _ hfinished =>
    rw [tally_toList hheld, htaken, hfinished, tally_nil, Nat.zero_add]

namespace Scene

variable {s t : Scene} {pool : Pool}

/-- Jobs leave the line in the order of their acceptance, and each is then held or finished. -/
structure Ledger (s : Scene) : Prop where
  tame : ∀ w ∈ s.daemon.workers, w.Tame
  /-- The line is what is left of the accepted jobs. -/
  order : s.accepted = s.taken ++ s.queue.line
  /-- The accepted jobs are those of the submissions that were accepted. -/
  admitted : ∀ p, tally p (s.calls.filterMap Submission.accepted?) = tally p s.accepted
  /-- Workers hold or have finished what was taken. -/
  handed : ∀ p, tally p s.taken = tally p s.held + tally p s.finished

theorem ledger_opening (d : Daemon) (capacity : Nat) (p : Pool) : (opening d capacity p).Ledger :=
  ⟨fun _ h => absurd h List.not_mem_nil, rfl, fun _ => rfl, fun _ => rfl⟩

theorem held_of_workers (h : t.daemon.workers = s.daemon.workers) : t.held = s.held := by
  rw [held, h, held]

/-- When a worker changes, the jobs that are held change by its own. -/
theorem tally_held_worked {i : Nat} {w w' : Worker} {d : Daemon} (hpool : s.daemon.pool = some pool)
    (hw : s.daemon.workers[i]? = some w) (hstep : WorkerStep s.daemon pool i w w' d)
    (p : Uuid × String → Bool) :
    tally p (s.worked i w w' d).held + tally p w.held?.toList
      = tally p s.held + tally p w'.held?.toList := by
  rw [held, show (s.worked i w w' d).daemon.workers = _ from hstep.workers hpool]
  exact tally_filterMap_set hw w'

theorem Ledger.progress (hs : s.Ledger) (h : Progress s t) : t.Ledger := by
  have work := h.sameWork
  refine ⟨fun w hw => hs.tame w (work.workers ▸ hw), ?_, fun p => ?_, fun p => ?_⟩
  · rw [work.taken]
    have order := hs.order
    cases h with
    | come => simpa [queue] using order
    | abandon _ => simpa [queue, proceed] using order
    | send _ => simp [order, accept, proceed, Queue.send]
    | put _ _ => simp [order, accept, proceed]
    | _ => exact order
  · have admitted := hs.admitted p
    -- a submission that is accepted is counted once more, as is its job among the accepted ones
    have moved : ∀ {ticket : Ticket} {c : Submission} (c' : Submission),
        s.calls[ticket]? = some c → c.accepted? = none →
        tally p ((s.calls.set ticket c').filterMap Submission.accepted?)
          = tally p s.accepted + tally p c'.accepted?.toList := by
      intro ticket c c' hcall hc
      have := tally_filterMap_set (p := p) (f := Submission.accepted?) hcall c'
      rw [hc] at this
      simpa [admitted] using this
    cases h with
    | refuse | come | offer => simpa [Submission.accepted?, List.filterMap_cons] using admitted
    | send hcall => exact (moved ⟨_, .accepted⟩ hcall rfl).trans tally_append.symm
    | put hcall _ => exact (moved ⟨_, .accepted⟩ hcall rfl).trans tally_append.symm
    | count hcall _ => exact moved ⟨_, .counted⟩ hcall rfl
    | turnAway hcall => exact moved ⟨_, .refused _⟩ hcall rfl
    | fail hcall => exact moved ⟨_, .refusing _⟩ hcall rfl
    | takeBack hcall => exact moved ⟨_, .refused _⟩ hcall rfl
    | abandon hcall => exact moved ⟨_, .abandoned⟩ hcall rfl
  · rw [work.taken, held_of_workers work.workers, work.finished]
    exact hs.handed p

/-- Whatever a worker does to a job, it holds or has finished it afterwards. -/
theorem Ledger.worker {i : Nat} {w w' : Worker} {d : Daemon} (hs : s.Ledger)
    (hpool : s.daemon.pool = some pool) (hw : s.daemon.workers[i]? = some w)
    (hstep : WorkerStep s.daemon pool i w w' d) : Ledger (s.worked i w w' d) := by
  have tame := hs.tame w (List.mem_of_getElem? hw)
  refine ⟨(Change.worker hpool hw hstep).forall_workers trivial (fun _ h => h.tame) hs.tame, ?_,
    hs.admitted, fun p => ?_⟩
  · change s.accepted = s.taken ++ History.taken (w.change w') ++ d.queue.line
    rw [hs.order]
    cases hstep.effect tame with
    | take _ _ htaken hqueue _ => rw [htaken, Queue.line_take? hqueue, List.append_assoc]; rfl
    | finish _ _ htaken _ hqueue _ => rw [htaken, hqueue, List.append_nil]; rfl
    | keep _ htaken hqueue _ => rw [htaken, hqueue, List.append_nil]
  · have handed := hs.handed p
    have held := tally_held_worked hpool hw hstep p
    have balance := (hstep.effect tame).balance p
    change tally p (s.taken ++ History.taken (w.change w'))
      = tally p (s.worked i w w' d).held + tally p (d.finished.map Prod.fst)
    rw [tally_append]
    simp only [finished] at handed
    omega

theorem held_of_control (hpool : s.daemon.pool = some pool) (h : Control s pool t) :
    t.held = s.held := by
  rcases h.workers_cases hpool with hworkers | hworkers
  · exact held_of_workers hworkers
  · simp [held, hworkers, Worker.held?, Worker.job?]

theorem Ledger.control (hs : s.Ledger) (hpool : s.daemon.pool = some pool) (h : Control s pool t) :
    t.Ledger := by
  have same := h.sameJobs
  refine ⟨(Change.control hpool h).forall_workers trivial (fun _ h => h.tame) hs.tame, ?_,
    fun p => ?_, fun p => ?_⟩
  · rw [same.accepted, same.taken, same.queue, hs.order]
  · rw [same.calls, same.accepted, hs.admitted]
  · rw [same.taken, same.finished, held_of_control hpool h, hs.handed]

theorem Ledger.change (hs : s.Ledger) (h : Change s t) : t.Ledger := by
  cases h with
  | progress h => exact hs.progress h
  | worker hpool hw hstep => exact hs.worker hpool hw hstep
  | control hpool h => exact hs.control hpool h
  | look => exact ⟨hs.tame, hs.order, hs.admitted, hs.handed⟩
  | other d => exact ⟨hs.tame, hs.order, hs.admitted, hs.handed⟩

theorem ledger_run (d : Daemon) (capacity : Nat) (p : Pool) (moves : List Move) :
    ((opening d capacity p).run moves).Ledger :=
  run_induction (fun _ _ => Ledger.change) (hasPool_opening ..) (ledger_opening ..) moves

/-- Every accepted job is in one place. -/
theorem Ledger.perm (hs : s.Ledger) : ((s.calls.filterMap Submission.accepted?).map Job.key).Perm
    ((s.queue.line ++ s.held ++ s.finished).map Job.key) := by
  refine perm_of_tally fun p => ?_
  rw [hs.admitted, hs.order]
  simp only [tally_append]
  have := hs.handed p
  omega

/-! ## Executors that return -/

/-- No worker has crashed, and none will. -/
structure Returning (s : Scene) : Prop where
  executor : ∀ pool, s.daemon.pool = some pool → pool.executor.Returns
  workers : ∀ w ∈ s.daemon.workers, w.Returns

theorem returning_opening (d : Daemon) (capacity : Nat) {p : Pool} (h : p.executor.Returns) :
    (opening d capacity p).Returning := by
  refine ⟨fun pool hpool => ?_, fun _ h => absurd h List.not_mem_nil⟩
  obtain rfl := Option.some.inj hpool
  exact h

theorem Returning.change (hs : s.Returning) (h : Change s t) : t.Returning := by
  have idle : Worker.idle.Returns := ⟨trivial, fun _ h => nomatch h⟩
  refine ⟨fun pool' hpool' => ?_, h.forall_workers idle
    (fun hpool hstep => hstep.returns (hs.executor _ hpool)) hs.workers⟩
  cases h with
  | progress h => exact hs.executor _ (h.sameWork.pool ▸ hpool')
  | worker hpool _ hstep =>
    obtain ⟨pool'', hd, hreturns⟩ := hstep.executor_returns hpool (hs.executor _ hpool)
    obtain rfl := Option.some.inj (hd.symm.trans hpool')
    exact hreturns
  | control hpool h =>
    obtain ⟨pool'', ht, hexecutor, -⟩ := h.pool_cases hpool
    obtain rfl := Option.some.inj (ht.symm.trans hpool')
    exact hexecutor ▸ hs.executor _ hpool
  | look => exact hs.executor _ hpool'
  | other d => exact hs.executor _ hpool'

theorem returning_run (d : Daemon) (capacity : Nat) {p : Pool} (h : p.executor.Returns)
    (moves : List Move) : ((opening d capacity p).run moves).Returning :=
  run_induction (fun _ _ => Returning.change) (hasPool_opening ..) (returning_opening _ _ h) moves

/-- What workers have taken and not finished, they are at. -/
theorem Returning.held_eq (hs : s.Returning) : s.held = s.running :=
  List.filterMap_congr fun w hw => (hs.workers w hw).held?_eq

end Scene

end Orchestrator
