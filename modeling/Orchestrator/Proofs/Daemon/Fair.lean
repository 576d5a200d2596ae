import Mathlib.Data.List.Basic
import Mathlib.Data.Nat.Find
import Mathlib.Order.Basic
import Orchestrator.Proofs.Daemon.Adverse
import Orchestrator.Proofs.Drift.Draining

/-!
# Every job that a worker takes is ended

Along a fair run (`FairRun`) workers go on whenever they can for good, and time goes by; the engine
answers as it likes, with values, errors and panics. Then every job that a worker takes comes to its end
(`FairRun.ends`): an attempt has finitely many requests left, a job finitely many attempts, and whoever
waits for a lock moves up when the first in the line has ended its job. Every daemon has a fair run,
namely when it is left to itself: `fairRun_ticking`.

Main statements: `FairRun.ends`, `FairRun.first_end`.
-/
namespace Orchestrator

open Daemon

variable {s t : Daemon} {pool : Pool} {i j : Nat} {w w' : Worker} {job : Job}

/-! ## The course of a job -/

/-- Where a worker goes from a state in which it has a job, unless it finishes the job. -/
def Worker.Goes : Worker → Worker → Prop
  | .taken job, w' => w' = .locking job
  | .locking _, w' => ∃ job rest, w' = .attempting job 1 rest
  | .attempting job attempt (.ask r next), w' => ∃ answer : r.Answer,
    w' = .attempting job attempt (next answer) ∨ ∃ wake, w' = .sleeping job attempt wake (next answer)
  | .attempting _ attempt (.done _), w' => ∃ job wake, attempt < max job.attempts.toNat 1 ∧
    w' = .resting job attempt wake
  | .sleeping job attempt _ rest, w' => w' = .attempting job attempt rest
  | .resting _ attempt _, w' => ∃ job rest, w' = .attempting job (attempt + 1) rest
  | _, _ => False

namespace Daemon

/-- The worker's attempt has ended, and with it the job. -/
inductive Ends (s : Daemon) (i : Nat) (job : Job) : JobOutcome → Daemon → Prop
  | succeed {first : Job} {attempt : Nat}
    (hw : s.workers[i]? = some (.attempting first attempt (.done (.ok (), job)))) :
    Ends s i job .succeeded (s.complete i job .succeeded)
  | fail {first job' : Job} {attempt : Nat} {e : JobError}
    (hw : s.workers[i]? = some (.attempting first attempt (.done (.error (.error e), job'))))
    (hjob : job = job'.withFailure e.message) : Ends s i job .failed (s.complete i job .failed)

/-- A worker that has a job finishes it, or goes on with it; only in the first case the store and the
finished jobs change. -/
theorem Moves.cases (h : s.Moves i w w' t) (hs : s.Sane) (hjob : w.job? = some job) :
    (∃ final outcome, final.key = job.key ∧ Ends s i final outcome t) ∨
    (w.Goes w' ∧ t.store = s.store ∧ t.finished = s.finished ∧
      ∃ job', w'.job? = some job' ∧ job'.key = job.key) := by
  obtain ⟨pool, hpool, hw, hmove⟩ := h
  have htame := hs.counted.tame w (List.mem_of_getElem? hw)
  have hcontained := hs.contained w (List.mem_of_getElem? hw)
  cases hmove with
  | reply reply engine => exact .inr ⟨⟨reply, .inl rfl⟩, rfl, rfl, job, hjob, rfl⟩
  | step h =>
    cases h with
    | stop | take _ => cases hjob
    | join => exact .inr ⟨rfl, rfl, rfl, job, hjob, rfl⟩
    | @first job' _ =>
      obtain rfl := Option.some.inj hjob
      exact .inr ⟨⟨_, _, rfl⟩, rfl, rfl, _, rfl, rfl⟩
    | succeed =>
      obtain rfl := Option.some.inj hjob
      exact .inl ⟨_, _, htame, .succeed hw⟩
    | crash =>
      obtain ⟨e, he⟩ := hcontained.ended
      cases he
    | @retry _ job' _ e hmore =>
      obtain rfl := Option.some.inj hjob
      exact .inr ⟨⟨job'.withFailure e.message, _, hmore, rfl⟩, rfl, rfl,
        job'.withFailure e.message, rfl, htame⟩
    | @fail _ job' _ e _ =>
      obtain rfl := Option.some.inj hjob
      exact .inl ⟨job'.withFailure e.message, _, htame, .fail hw rfl⟩
    | pause => exact .inr ⟨⟨(), .inr ⟨_, rfl⟩⟩, rfl, rfl, job, hjob, rfl⟩
    | @ask _ _ r _ _ => exact .inr ⟨⟨_, .inl rfl⟩, by cases r <;> rfl, by cases r <;> rfl, job, hjob, rfl⟩
    | wake _ => exact .inr ⟨rfl, rfl, rfl, job, hjob, rfl⟩
    | again _ =>
      obtain rfl := Option.some.inj hjob
      exact .inr ⟨⟨_, _, rfl⟩, rfl, rfl, _, rfl, rfl⟩

/-! ## Locks -/

/-- A worker that moves joins a line, leaves it, or leaves it as it is. -/
theorem Moves.line (h : s.Moves i w w' t) (hs : s.Sane) (d : String) :
    t.locks.line d = s.locks.line d ∨ t.locks.line d = s.locks.line d ++ [i] ∨
      t.locks.line d = (s.locks.line d).erase i := by
  obtain ⟨pool, hpool, hw, hmove⟩ := h
  cases hmove with
  | reply reply engine => exact .inl rfl
  | step h =>
    rcases h.lock d (hs.sound w (List.mem_of_getElem? hw)) with hquiet | ⟨_, -, -, -, hline⟩ |
      ⟨_, _, _, -, -, -, -, -, -, hline⟩ | ⟨_, _, _, -, -, -, hline⟩
    · exact .inl hquiet.line
    · exact .inr (.inl hline)
    · exact .inl hline
    · exact .inr (.inr hline)

theorem Moves.now (h : s.Moves i w w' t) : t.now = s.now := by
  obtain ⟨pool, hpool, hw, hmove⟩ := h
  cases hmove with
  | reply reply engine => rfl
  | step h =>
    cases h with
    | @ask _ _ r _ _ => cases r <;> rfl
    | _ => rfl

/-! ## Ends -/

section

variable {final : Job} {outcome : JobOutcome}

theorem Ends.eq_complete (h : Ends s i final outcome t) : t = s.complete i final outcome := by
  cases h <;> rfl

/-- A worker that ends a job was at the end of an attempt of that job. -/
theorem Ends.attempting (h : Ends s i final outcome t) (hs : s.Sane) : ∃ first attempt rest,
    s.workers[i]? = some (.attempting first attempt rest) ∧ final.key = first.key := by
  cases h with
  | succeed hw => exact ⟨_, _, _, hw, hs.counted.tame _ (List.mem_of_getElem? hw)⟩
  | fail hw hjob =>
    subst hjob
    exact ⟨_, _, _, hw, hs.counted.tame _ (List.mem_of_getElem? hw)⟩

theorem Ends.key (h : Ends s i final outcome t) (hs : s.Sane) (hw : s.workers[i]? = some w)
    (hjob : w.job? = some job) : final.key = job.key := by
  obtain ⟨first, attempt, rest, hattempting, hkey⟩ := h.attempting hs
  obtain rfl := Option.some.inj (hw.symm.trans hattempting)
  obtain rfl := Option.some.inj hjob
  exact hkey

/-- Who ends a job had the lock of its deployment, and stands in no line any more. -/
theorem Ends.lock (h : Ends s i final outcome t) (hs : s.Sane) :
    (∃ rest, s.locks.line final.scope = i :: rest ∧ t.locks.line final.scope = rest) ∧
      ∀ d, i ∉ t.locks.line d := by
  obtain ⟨first, attempt, rest, hw, hkey⟩ := h.attempting hs
  have hscope : first.scope = final.scope := (congrArg Prod.snd hkey).symm
  have hleft : ∀ d, t.locks.line d = (s.locks.leave final.scope i).line d := fun d => by
    rw [h.eq_complete]
    rfl
  have hview : ∀ d, s.view d i = if first.scope = d then some (first.id, true) else none :=
    fun d => view_eq hw
  obtain ⟨history, hlined⟩ := hs.lined final.scope
  obtain ⟨line, hline⟩ := hlined.head_of_underWay ((hview _).trans (if_pos hscope))
  have hrest : t.locks.line final.scope = line := by
    rw [hleft, Locks.line_leave, if_pos rfl, hline, List.erase_cons_head]
  refine ⟨⟨line, hline, hrest⟩, fun d => ?_⟩
  by_cases hd : final.scope = d
  · rw [← hd, hrest]
    have hnodup := hlined.nodup
    rw [hline] at hnodup
    exact (List.nodup_cons.1 hnodup).1
  · obtain ⟨history', hlined'⟩ := hs.lined d
    rw [hleft, Locks.line_leave, if_neg (Ne.symm hd), hlined'.mem i, hview, if_neg (hscope ▸ hd)]
    simp

/-- The job is not counted any more. -/
theorem Ends.count (h : Ends s i final outcome t) (hs : s.Sane) :
    t.queue.inFlight.count final.scope + 1 = s.queue.inFlight.count final.scope := by
  obtain ⟨first, attempt, rest, hw, hkey⟩ := h.attempting hs
  have hheld : 0 < tally (inScope final.scope) s.held := by
    refine tally_pos_iff.2 ⟨first, List.mem_filterMap.2 ⟨_, List.mem_of_getElem? hw, rfl⟩, ?_⟩
    exact (congrArg Prod.snd hkey).symm
  have hcount := hs.counted.counts final.scope
  have hqueue : t.queue = s.queue.finish final := by
    rw [h.eq_complete]
    rfl
  rw [hqueue, Queue.finish, InFlight.count_release, if_pos rfl]
  omega

end

end Daemon

/-! ## Fair runs -/

/-- A run without end. A worker that can take a step from some time on takes one, and time goes by. -/
structure FairRun (run : Nat → Daemon) : Prop where
  next : ∀ n, (∃ i w w', (run n).Moves i w w' (run (n + 1))) ∨ Beside (run n) (run (n + 1))
  fair : ∀ i n, (∀ m, n ≤ m → ∃ w, (run m).workers[i]? = some w ∧ (run m).CanStep i w) →
    ∃ m, n ≤ m ∧ ∃ w w', (run m).Moves i w w' (run (m + 1))
  clock : ∀ n time, ∃ m, n ≤ m ∧ time ≤ (run m).now

/-- From one time to another a worker takes no step. -/
def Still (run : Nat → Daemon) (i n m : Nat) : Prop :=
  ∀ k, n ≤ k → k < m → ∀ w w', ¬ (run k).Moves i w w' (run (k + 1))

/-- A worker ends a job sooner or later. -/
def EndsSoon (run : Nat → Daemon) (i n : Nat) : Prop :=
  ∃ m, n ≤ m ∧ ∃ job outcome, Ends (run m) i job outcome (run (m + 1))

/-- A worker takes its next step from a state. -/
def StepsFrom (run : Nat → Daemon) (i n : Nat) (w : Worker) : Prop :=
  ∃ m, n ≤ m ∧ Still run i n m ∧ ∃ w', (run m).Moves i w w' (run (m + 1))

theorem EndsSoon.mono {run : Nat → Daemon} {n m : Nat} (h : EndsSoon run i m) (hle : n ≤ m) :
    EndsSoon run i n := by
  obtain ⟨k, hk, hends⟩ := h
  exact ⟨k, hle.trans hk, hends⟩

theorem Still.of_succ {run : Nat → Daemon} {n m : Nat} (h : Still run i n (m + 1)) : Still run i n m :=
  fun k hk hkm => h k hk (Nat.lt_succ_of_lt hkm)

/-- A step that is taken meanwhile is another worker's. -/
theorem Still.ne {run : Nat → Daemon} {n m : Nat} (h : Still run i n (m + 1)) (hle : n ≤ m)
    (hmove : (run m).Moves j w w' (run (m + 1))) : i ≠ j := by
  rintro rfl
  exact h m hle (Nat.lt_succ_self m) w w' hmove

/-- Who leaves a list lets nobody fall back. -/
theorem idxOf_erase_le {a b : Nat} (hne : a ≠ b) (l : List Nat) :
    (l.erase b).idxOf a ≤ l.idxOf a := by
  induction l with
  | nil => exact Nat.le_refl _
  | cons c l ih =>
    by_cases hb : c = b
    · subst hb
      rw [List.erase_cons_head, List.idxOf_cons_ne _ (Ne.symm hne)]
      exact Nat.le_succ _
    · rw [List.erase_cons_tail (by simpa using hb)]
      by_cases ha : c = a
      · rw [List.idxOf_cons_eq _ ha, List.idxOf_cons_eq _ ha]
      · rw [List.idxOf_cons_ne _ ha, List.idxOf_cons_ne _ ha]
        exact Nat.succ_le_succ ih

namespace FairRun

variable {run : Nat → Daemon} {n m : Nat} (hrun : FairRun run) (hs : (run 0).Sane)
include hrun

/-- What is so at the start, and what workers and others keep, is always so. -/
theorem always {P : Daemon → Prop} (hstart : P (run 0))
    (hmove : ∀ s t i w w', s.Moves i w w' t → P s → P t) (hbeside : ∀ s t, Beside s t → P s → P t)
    (n : Nat) : P (run n) := by
  induction n with
  | zero => exact hstart
  | succ n ih =>
    rcases hrun.next n with ⟨i, w, w', h⟩ | h
    · exact hmove _ _ i w w' h ih
    · exact hbeside _ _ h ih

include hs in
theorem sane (n : Nat) : (run n).Sane :=
  hrun.always hs (fun _ _ _ _ _ h hs => h.sane hs) (fun _ _ h hs => h.sane hs) n

theorem now_le (h : n ≤ m) : (run n).now ≤ (run m).now := by
  induction m, h using Nat.le_induction with
  | base => exact Nat.le_refl _
  | succ m hle ih =>
    rcases hrun.next m with ⟨i, w, w', hmove⟩ | hbeside
    · exact ih.trans (Nat.le_of_eq hmove.now.symm)
    · exact ih.trans hbeside.now

/-- As long as a worker takes no step, its state stays. -/
theorem unmoved (hstill : Still run i n m) (hle : n ≤ m) (hw : (run n).workers[i]? = some w) :
    (run m).workers[i]? = some w := by
  induction m, hle using Nat.le_induction with
  | base => exact hw
  | succ m hle ih =>
    have hw_m := ih hstill.of_succ
    rcases hrun.next m with ⟨j, v, v', hmove⟩ | hbeside
    · rw [hmove.workers, List.getElem?_set_ne (hstill.ne hle hmove).symm]
      exact hw_m
    · rw [hbeside.workers]
      exact hw_m

/-- A worker never takes a step again, or it takes its next one from the state it is in. -/
theorem still_or_moves (hw : (run n).workers[i]? = some w) :
    (∀ m, Still run i n m) ∨ StepsFrom run i n w := by
  classical
  by_cases hmoves : ∃ m, n ≤ m ∧ ∃ v v', (run m).Moves i v v' (run (m + 1))
  · obtain ⟨hle, v, v', hmove⟩ := Nat.find_spec hmoves
    have hstill : Still run i n (Nat.find hmoves) := fun k hk hlt u u' hmove' =>
      Nat.find_min hmoves hlt ⟨hk, u, u', hmove'⟩
    have hsame : w = v :=
      Option.some.inj ((hrun.unmoved hstill hle hw).symm.trans hmove.choose_spec.2.1)
    exact .inr ⟨_, hle, hstill, v', hsame ▸ hmove⟩
  · exact .inl fun m k hk hlt v v' hmove => hmoves ⟨k, hk, v, v', hmove⟩

/-- A worker that can take a step from some time on, unless it takes one before, takes its next step. -/
theorem moves (hw : (run n).workers[i]? = some w) (later : Nat)
    (hcan : ∀ m, n ≤ m → later ≤ m → Still run i n m → (run m).CanStep i w) :
    StepsFrom run i n w := by
  rcases hrun.still_or_moves hw with hstill | hmoves
  · obtain ⟨m, hle, v, v', hmove⟩ := hrun.fair i (max n later) fun m hm =>
      ⟨w, hrun.unmoved (hstill m) ((Nat.le_max_left ..).trans hm) hw,
        hcan m ((Nat.le_max_left ..).trans hm) ((Nat.le_max_right ..).trans hm) (hstill m)⟩
    exact absurd hmove (hstill (m + 1) m ((Nat.le_max_left ..).trans hle) (Nat.lt_succ_self m) v v')
  · exact hmoves

/-- A worker that pauses goes on when its time has come. -/
theorem moves_after (hw : (run n).workers[i]? = some w) (wake : Nat)
    (hcan : ∀ s : Daemon, wake ≤ s.now → s.CanStep i w) : StepsFrom run i n w := by
  obtain ⟨later, -, hwake⟩ := hrun.clock n wake
  exact hrun.moves hw later fun m _ hm _ => hcan _ (hwake.trans (hrun.now_le hm))

/-! ## Attempts end -/

section

include hs

/-- A worker that takes its next step ends its job, or it will from where it goes. -/
theorem ends_of_next (hjob : w.job? = some job) (hmoves : StepsFrom run i n w)
    (hgo : ∀ m w', w.Goes w' → (run m).workers[i]? = some w' → EndsSoon run i m) :
    EndsSoon run i n := by
  obtain ⟨m, hle, -, w', hmove⟩ := hmoves
  rcases hmove.cases (hrun.sane hs m) hjob with ⟨final, outcome, -, hends⟩ | ⟨hgoes, -⟩
  · exact ⟨m, hle, final, outcome, hends⟩
  · exact (hgo (m + 1) w' hgoes hmove.worker).mono (Nat.le_succ_of_le hle)

/-- An attempt ends after finitely many requests, and is made again only so many times. -/
theorem ends_of_attempting {attempt : Nat} {rest : AttemptProgram}
    (hw : (run n).workers[i]? = some (.attempting job attempt rest)) : EndsSoon run i n := by
  -- the outer induction is on the attempts that are left, of which there are fewer than 2 ^ 32
  induction hfuel : 2 ^ 32 - attempt using Nat.strongRecOn generalizing n job attempt rest with
  | ind fuel ih =>
    induction rest generalizing n with
    | done result =>
      refine hrun.ends_of_next hs rfl (hrun.moves hw n fun _ _ _ _ => trivial) ?_
      rintro m _ ⟨job', wake, hmore, rfl⟩ hw'
      refine hrun.ends_of_next hs rfl (hrun.moves_after hw' wake fun _ h => h) ?_
      rintro m' _ ⟨job'', rest, rfl⟩ hw''
      have hbound : job'.attempts.toNat < 2 ^ 32 := job'.attempts.toNat_lt
      exact ih (2 ^ 32 - (attempt + 1)) (by omega) hw'' rfl
    | ask r next ihnext =>
      refine hrun.ends_of_next hs rfl (hrun.moves hw n fun _ _ _ _ => trivial) ?_
      rintro m _ ⟨answer, rfl | ⟨wake, rfl⟩⟩ hw'
      · exact ihnext answer hw'
      · refine hrun.ends_of_next hs rfl (hrun.moves_after hw' wake fun _ h => h) ?_
        rintro m' _ rfl hw''
        exact ihnext answer hw''

theorem ends_of_underWay {d : String} (hw : (run n).workers[i]? = some w)
    (hunder : w.underWay? = some d) : EndsSoon run i n := by
  cases w with
  | attempting job attempt rest => exact hrun.ends_of_attempting hs hw
  | sleeping job attempt wake rest =>
    refine hrun.ends_of_next hs rfl (hrun.moves_after hw wake fun _ h => h) ?_
    rintro m _ rfl hw'
    exact hrun.ends_of_attempting hs hw'
  | resting job attempt wake =>
    refine hrun.ends_of_next hs rfl (hrun.moves_after hw wake fun _ h => h) ?_
    rintro m _ ⟨job', rest, rfl⟩ hw'
    exact hrun.ends_of_attempting hs hw'
  | _ => cases hunder

/-! ## Locks are had -/

/-- The first in a line stays the first until it takes a step. -/
theorem head_stays {d : String} (hstill : Still run i n m) (hle : n ≤ m)
    (hhead : ((run n).locks.line d).head? = some i) : ((run m).locks.line d).head? = some i := by
  induction m, hle using Nat.le_induction with
  | base => exact hhead
  | succ m hle ih =>
    have hhead_m := ih hstill.of_succ
    obtain ⟨line, hline⟩ := List.head?_eq_some_iff.1 hhead_m
    rcases hrun.next m with ⟨j, v, v', hmove⟩ | hbeside
    · have hne := hstill.ne hle hmove
      rcases hmove.line (hrun.sane hs m) d with hsame | hjoin | hleave
      · rw [hsame, hhead_m]
      · rw [hjoin, hline]
        rfl
      · rw [hleave, hline, List.erase_cons_tail (by simpa using hne)]
        rfl
    · rw [hbeside.locks, hhead_m]

/-- Nobody falls back in a line. -/
theorem place_le {d : String} (hstill : Still run i n m) (hle : n ≤ m)
    (hmem : i ∈ (run n).locks.line d) : i ∈ (run m).locks.line d ∧
      ((run m).locks.line d).idxOf i ≤ ((run n).locks.line d).idxOf i := by
  induction m, hle using Nat.le_induction with
  | base => exact ⟨hmem, Nat.le_refl _⟩
  | succ m hle ih =>
    obtain ⟨hmem_m, hplace⟩ := ih hstill.of_succ
    rcases hrun.next m with ⟨j, v, v', hmove⟩ | hbeside
    · have hne := hstill.ne hle hmove
      rcases hmove.line (hrun.sane hs m) d with hsame | hjoin | hleave
      · rw [hsame]
        exact ⟨hmem_m, hplace⟩
      · rw [hjoin, List.idxOf_append_of_mem hmem_m]
        exact ⟨List.mem_append_left _ hmem_m, hplace⟩
      · rw [hleave]
        refine ⟨(List.mem_erase_of_ne hne).2 hmem_m, le_trans ?_ hplace⟩
        exact idxOf_erase_le hne _
    · rw [hbeside.locks]
      exact ⟨hmem_m, hplace⟩

/-- A worker whose next step begins its job ends it. -/
theorem ends_of_begin (hmoves : StepsFrom run i n (.locking job)) : EndsSoon run i n := by
  refine hrun.ends_of_next hs rfl hmoves ?_
  rintro m _ ⟨job', rest, rfl⟩ hw'
  exact hrun.ends_of_attempting hs hw'

/-- The first in a line begins its job, and so ends it. -/
theorem ends_of_head (hw : (run n).workers[i]? = some (.locking job))
    (hhead : ((run n).locks.line job.scope).head? = some i) : EndsSoon run i n :=
  hrun.ends_of_begin hs (hrun.moves hw n fun _ hle _ hstill => hrun.head_stays hs hstill hle hhead)

/-- The first in a line ends its job, whether it has begun it or not. -/
theorem ends_of_first {d : String} (hhead : ((run n).locks.line d).head? = some i) :
    ∃ w job, (run n).workers[i]? = some w ∧ w.job? = some job ∧ job.scope = d ∧ EndsSoon run i n := by
  obtain ⟨history, hlined⟩ := (hrun.sane hs n).lined d
  obtain ⟨⟨id, begun⟩, hsees⟩ :=
    Option.isSome_iff_exists.1 ((hlined.mem i).1 (List.mem_of_mem_head? hhead))
  obtain ⟨w, hw, hsees⟩ := Option.bind_eq_some_iff.1 hsees
  cases begun with
  | true =>
    have hunder := Worker.underWay_iff.2 ⟨id, hsees⟩
    have hends := hrun.ends_of_underWay hs hw hunder
    cases w with
    | attempting | sleeping | resting => exact ⟨_, _, hw, rfl, Option.some.inj hunder, hends⟩
    | _ => cases hunder
  | false =>
    cases w with
    | locking job =>
      have hscope : job.scope = d := by_contra fun hne => by simp [Worker.view, hne] at hsees
      exact ⟨_, job, hw, rfl, hscope, hrun.ends_of_head hs hw (hscope ▸ hhead)⟩
    | _ => simp [Worker.view] at hsees

end

/-- A worker is at a job, and if it takes a step then nothing is recorded. -/
structure AtWork (run : Nat → Daemon) (i : Nat) (job : Job) (n : Nat) : Prop where
  has : ∃ w job', (run n).workers[i]? = some w ∧ w.job? = some job' ∧ job'.key = job.key
  quiet : ∀ w w', (run n).Moves i w w' (run (n + 1)) →
    (run (n + 1)).store = (run n).store ∧ (run (n + 1)).finished = (run n).finished

section

include hs

/-- A worker is at its job until it ends it. -/
theorem first_end (hw : (run n).workers[i]? = some w) (hjob : w.job? = some job)
    (hsoon : EndsSoon run i n) : ∃ m, n ≤ m ∧ (∀ k, n ≤ k → k < m → AtWork run i job k) ∧
      ∃ final outcome, final.key = job.key ∧ Ends (run m) i final outcome (run (m + 1)) := by
  classical
  unfold EndsSoon at hsoon
  obtain ⟨hle, final, outcome, hends⟩ := Nat.find_spec hsoon
  have hnot : ∀ k, n ≤ k → k < Nat.find hsoon →
      ¬ ∃ job outcome, Ends (run k) i job outcome (run (k + 1)) := fun k hk hlt hends' =>
    Nat.find_min hsoon hlt ⟨hk, hends'⟩
  have hat : ∀ k, n ≤ k → k ≤ Nat.find hsoon → ∃ v job', (run k).workers[i]? = some v ∧
      v.job? = some job' ∧ job'.key = job.key := by
    intro k hk
    induction k, hk using Nat.le_induction with
    | base => exact fun _ => ⟨w, job, hw, hjob, rfl⟩
    | succ k hk ih =>
      intro hlt
      obtain ⟨v, job', hv, hjob', hkey⟩ := ih (Nat.le_of_succ_le hlt)
      rcases hrun.next k with ⟨j, u, u', hmove⟩ | hbeside
      · by_cases hji : j = i
        · subst hji
          obtain rfl : v = u := Option.some.inj (hv.symm.trans hmove.choose_spec.2.1)
          rcases hmove.cases (hrun.sane hs k) hjob' with ⟨final', outcome', -, hends'⟩ |
            ⟨-, -, -, job'', hjob'', hkey'⟩
          · exact absurd ⟨final', outcome', hends'⟩ (hnot k hk hlt)
          · exact ⟨u', job'', hmove.worker, hjob'', hkey'.trans hkey⟩
        · refine ⟨v, job', ?_, hjob', hkey⟩
          rw [hmove.workers, List.getElem?_set_ne hji, hv]
      · exact ⟨v, job', by rw [hbeside.workers, hv], hjob', hkey⟩
  refine ⟨_, hle, fun k hk hlt => ⟨hat k hk (Nat.le_of_lt hlt), fun u u' hmove => ?_⟩, final, outcome,
    ?_, hends⟩
  · obtain ⟨v, job', hv, hjob', hkey⟩ := hat k hk (Nat.le_of_lt hlt)
    obtain rfl : v = u := Option.some.inj (hv.symm.trans hmove.choose_spec.2.1)
    rcases hmove.cases (hrun.sane hs k) hjob' with ⟨final', outcome', -, hends'⟩ |
      ⟨-, hstore, hfinished, -⟩
    · exact absurd ⟨final', outcome', hends'⟩ (hnot k hk hlt)
    · exact ⟨hstore, hfinished⟩
  · obtain ⟨v, job', hv, hjob', hkey⟩ := hat _ hle (Nat.le_refl _)
    exact (hends.key (hrun.sane hs _) hv hjob').trans hkey

/-- Whoever waits for a lock gets it, and ends its job. -/
theorem ends_of_locking (hw : (run n).workers[i]? = some (.locking job)) : EndsSoon run i n := by
  -- the induction is on the worker's place in the line: when the first in it ends, all move up
  induction hplace : ((run n).locks.line job.scope).idxOf i using Nat.strongRecOn generalizing n with
  | ind place ih =>
    rcases hrun.still_or_moves hw with hstill | hmoves
    · obtain ⟨history, hlined⟩ := (hrun.sane hs n).lined job.scope
      have hview : (run n).view job.scope i = some (job.id, false) := (view_eq hw).trans (if_pos rfl)
      have hmem : i ∈ (run n).locks.line job.scope := (hlined.mem i).2 (by rw [hview]; rfl)
      obtain ⟨j, line, hline⟩ := List.exists_cons_of_ne_nil (List.ne_nil_of_mem hmem)
      have hhead : ((run n).locks.line job.scope).head? = some j := by
        rw [hline]
        rfl
      by_cases hij : j = i
      · exact hrun.ends_of_head hs hw (hij ▸ hhead)
      · obtain ⟨v, job', hv, hjob', hscope, hsoon⟩ := hrun.ends_of_first hs hhead
        obtain ⟨m, hle, -, final, outcome, hkey, hends⟩ := hrun.first_end hs hv hjob' hsoon
        have hfinal : final.scope = job.scope := (congrArg Prod.snd hkey).trans hscope
        obtain ⟨⟨rest, hbefore, hafter⟩, -⟩ := hends.lock (hrun.sane hs m)
        rw [hfinal] at hbefore hafter
        have hlast := (hrun.place_le hs (hstill m) hle hmem).2
        rw [hbefore, List.idxOf_cons_ne _ hij] at hlast
        have hup : ((run (m + 1)).locks.line job.scope).idxOf i < place := by
          rw [hafter]
          omega
        exact (ih _ hup (hrun.unmoved (hstill (m + 1)) (Nat.le_succ_of_le hle) hw) rfl).mono
          (Nat.le_succ_of_le hle)
    · exact hrun.ends_of_begin hs hmoves

/-- Whatever a worker does with its job, it ends it. -/
theorem ends (hw : (run n).workers[i]? = some w) (hjob : w.job? = some job) : EndsSoon run i n := by
  cases w with
  | taken job =>
    refine hrun.ends_of_next hs rfl (hrun.moves hw n fun _ _ _ _ => trivial) ?_
    rintro m _ rfl hw'
    exact hrun.ends_of_locking hs hw'
  | locking job => exact hrun.ends_of_locking hs hw
  | attempting | sleeping | resting => exact hrun.ends_of_underWay hs hw rfl
  | idle | stopped | crashed => cases hjob

end

end FairRun

/-! ## Every daemon has a fair run -/

/-- Workers are asked in turn whether they can take a step, and after each a millisecond goes by. -/
def Daemon.tick (s : Daemon) (n : Nat) : Daemon :=
  if n % 2 = 0 then (s.stepWorker (n / 2 % s.workers.length)).getD s else { s with now := s.now + 1 }

/-- A daemon left to itself. -/
def ticking (s : Daemon) : Nat → Daemon
  | 0 => s
  | n + 1 => (ticking s n).tick n

theorem tick_cases (s : Daemon) (n : Nat) :
    (∃ i w w', s.Moves i w w' (s.tick n)) ∨ Beside s (s.tick n) := by
  unfold Daemon.tick
  split
  · cases h : s.stepWorker (n / 2 % s.workers.length) with
    | none => exact .inr (beside_later s (Nat.le_refl _))
    | some t =>
      obtain ⟨pool, w, w', hpool, hw, hstep⟩ := stepWorker_cases h
      have hworkers : s.workers = pool.workers := by rw [workers, hpool]
      exact .inl ⟨_, w, w', pool, hpool, hworkers ▸ hw, .step hstep⟩
  · exact .inr (beside_later s (Nat.le_succ _))

theorem ticking_workers_length (s : Daemon) (n : Nat) :
    (ticking s n).workers.length = s.workers.length := by
  induction n with
  | zero => rfl
  | succ n ih =>
    rw [← ih]
    rcases tick_cases (ticking s n) n with ⟨i, w, w', hmove⟩ | hbeside
    · exact (congrArg List.length hmove.workers).trans (List.length_set ..)
    · exact congrArg List.length hbeside.workers

theorem ticking_now (s : Daemon) (n : Nat) : n / 2 ≤ (ticking s n).now := by
  induction n with
  | zero => exact Nat.zero_le _
  | succ n ih =>
    by_cases heven : n % 2 = 0
    · have hsame : (n + 1) / 2 = n / 2 := by omega
      rw [hsame]
      rcases tick_cases (ticking s n) n with ⟨i, w, w', hmove⟩ | hbeside
      · exact ih.trans (Nat.le_of_eq hmove.now.symm)
      · exact ih.trans hbeside.now
    · have hlater : (ticking s (n + 1)).now = (ticking s n).now + 1 := by
        rw [ticking, Daemon.tick, if_neg heven]
      omega

/-- A daemon left to itself lets every worker that can take a step take one when its turn has come. -/
theorem moves_ticking (s : Daemon) {n : Nat} (heven : n % 2 = 0)
    (hturn : n / 2 % (ticking s n).workers.length = i) (hw : (ticking s n).workers[i]? = some w)
    (hcan : (ticking s n).CanStep i w) : ∃ w', (ticking s n).Moves i w w' (ticking s (n + 1)) := by
  obtain ⟨pool, hpool⟩ : ∃ pool, (ticking s n).pool = some pool := by
    refine Option.ne_none_iff_exists'.1 fun hnone => ?_
    rw [workers, hnone] at hw
    cases hw
  obtain ⟨t, ht⟩ := stepWorker_of_canStep hpool hw hcan
  obtain ⟨pool, w', hpool, -, -, hstep⟩ := workerStep_of_stepWorker hw ht
  have hnext : ticking s (n + 1) = t := by
    rw [ticking, Daemon.tick, if_pos heven, hturn, ht]
    rfl
  exact ⟨w', pool, hpool, hw, hnext ▸ .step hstep⟩

/-- A daemon left to itself runs fairly. -/
theorem fairRun_ticking (s : Daemon) : FairRun (ticking s) where
  next n := tick_cases (ticking s n) n
  fair i n hcan := by
    -- the worker's turn comes every `2 * s.workers.length` times
    obtain ⟨v, hv, -⟩ := hcan n (Nat.le_refl _)
    have hi : i < s.workers.length :=
      ticking_workers_length s n ▸ (List.getElem?_eq_some_iff.1 hv).1
    let m := 2 * (s.workers.length * n + i)
    have hle : n ≤ m := by
      have := Nat.le_mul_of_pos_left n (Nat.zero_lt_of_lt hi)
      omega
    have hturn : m / 2 % (ticking s m).workers.length = i := by
      rw [ticking_workers_length, Nat.mul_div_cancel_left _ (by decide), Nat.mul_add_mod,
        Nat.mod_eq_of_lt hi]
    obtain ⟨w, hw, hcan⟩ := hcan m hle
    obtain ⟨w', hmove⟩ := moves_ticking s (Nat.mul_mod_right ..) hturn hw hcan
    exact ⟨m, hle, w, w', hmove⟩
  clock n time := by
    refine ⟨2 * (n + time), by omega, ?_⟩
    have := ticking_now s (2 * (n + time))
    omega

end Orchestrator
