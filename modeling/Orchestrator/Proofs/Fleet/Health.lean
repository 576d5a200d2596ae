import Orchestrator.Engine.Memory
import Orchestrator.Proofs.Program.Yields

/-!
# What a health check asks

A health check waits for containers one after another. A wait looks at its container until it runs, the
engine fails, or the looks that the check allows are used up; after the `n`-th look that finds it not
running, unless it was the last one, the wait pauses for `n` times the base. The first wait that does not
find its container running ends the check.

Main statement: `health_checked`, every trace of a health check is one of such waits, and every such trace
is one of a health check.
-/
namespace Orchestrator.Fleet

open Engine

/-- What a look at a container is answered with. -/
abbrev Look : Type := Except (Failure EngineError) Container

/-- A look at a container and what it is answered with. -/
def look (id : String) (answer : Look) : Exchange := ⟨.engine (.inspect id), answer⟩

/-- Is the exchange a look at a container? -/
def isLook : Exchange → Bool
  | ⟨.engine (.inspect _), _⟩ => true
  | _ => false

/-- A wait for a container. -/
structure Wait where
  id : String
  /-- What the looks before the last one found. -/
  before : List Container
  /-- What the last look was answered with. -/
  last : Look

namespace Wait

/-- What a wait asks if `n` counts its first look: after each look before the last one it pauses for the
base times the number of the look. -/
def traceFrom (base n : Nat) (w : Wait) : Trace :=
  ((w.before.zipIdx n).flatMap fun (c, n) => [look w.id (.ok c), ⟨.pause (base * n), ()⟩])
    ++ [look w.id w.last]

/-- What a wait asks. -/
def trace (base : Nat) (w : Wait) : Trace := w.traceFrom base 1

/-- The wait looks at its container at most `budget` times. It goes on as long as it finds the container
not running, up to the last look that it may take. -/
structure Within (budget : Nat) (w : Wait) : Prop where
  short : w.before.length < budget
  notRunning : ∀ c ∈ w.before, c.state ≠ .running
  spent : ∀ c, w.last = .ok c → c.state ≠ .running → w.before.length + 1 = budget

/-- What comes of a wait: it succeeds if the container runs at last, and fails otherwise, with the error
of the engine or with the state in which the container was seen last. -/
def verdict (w : Wait) : Except (Failure ContainerError) Unit :=
  match w.last with
  | .error e => .error (e.map .engine)
  | .ok c => if c.state = .running then .ok () else .error (.error (.unhealthy w.id c.state))

theorem verdict_running {id : String} {before : List Container} {c : Container}
    (h : c.state = .running) : verdict ⟨id, before, .ok c⟩ = .ok () := if_pos h

theorem verdict_not_running {id : String} {before : List Container} {c : Container}
    (h : c.state ≠ .running) :
    verdict ⟨id, before, .ok c⟩ = .error (.error (.unhealthy id c.state)) := if_neg h

/-- A wait goes on after a look that found the container not running. -/
theorem traceFrom_cons {base n : Nat} {id : String} {c : Container} {before : List Container}
    {last : Look} : traceFrom base n ⟨id, c :: before, last⟩
      = look id (.ok c) :: ⟨.pause (base * n), ()⟩ :: traceFrom base (n + 1) ⟨id, before, last⟩ := by
  simp [traceFrom]

theorem traceFrom_nil {base n : Nat} {id : String} {last : Look} :
    traceFrom base n ⟨id, [], last⟩ = [look id last] := by
  simp [traceFrom]

theorem within_nil {budget : Nat} {id : String} {last : Look} :
    Within (budget + 1) ⟨id, [], last⟩ ↔
      ∀ c, last = .ok c → c.state ≠ .running → budget = 0 := by
  constructor
  · intro h c hlast hc
    have hspent := h.spent c hlast hc
    simp only [List.length_nil] at hspent
    omega
  · intro h
    refine ⟨Nat.succ_pos _, fun c hc => by simp at hc, fun c hlast hc => ?_⟩
    rw [h c hlast hc]
    rfl

theorem within_cons {budget : Nat} {id : String} {c : Container} {before : List Container}
    {last : Look} : Within (budget + 1) ⟨id, c :: before, last⟩ ↔
      c.state ≠ .running ∧ Within budget ⟨id, before, last⟩ := by
  constructor
  · intro h
    obtain ⟨hc, hbefore⟩ := List.forall_mem_cons.1 h.notRunning
    refine ⟨hc, Nat.lt_of_succ_lt_succ h.short, hbefore, fun c' hlast hc' => ?_⟩
    exact Nat.succ.inj (h.spent c' hlast hc')
  · rintro ⟨hc, h⟩
    refine ⟨Nat.succ_lt_succ h.short, List.forall_mem_cons.2 ⟨hc, h.notRunning⟩, fun c' hlast hc' => ?_⟩
    exact congrArg (· + 1) (h.spent c' hlast hc')

theorem looks_traceFrom (base n : Nat) (id : String) (before : List Container) (last : Look) :
    (traceFrom base n ⟨id, before, last⟩).countP isLook = before.length + 1 := by
  induction before generalizing n with
  | nil => rw [traceFrom_nil]; rfl
  | cons c before ih =>
    rw [traceFrom_cons, List.countP_cons, List.countP_cons, ih]
    rfl

/-- A wait takes at most as many looks as it may. -/
theorem Within.looks_le {budget : Nat} {w : Wait} (h : w.Within budget) (base : Nat) :
    (w.trace base).countP isLook ≤ budget := by
  rw [trace, looks_traceFrom]
  exact h.short

theorem looks_flatMap_le {budget : Nat} {waits : List Wait} (h : ∀ w ∈ waits, w.Within budget)
    (base : Nat) : (waits.flatMap (trace base)).countP isLook ≤ budget * waits.length := by
  induction waits with
  | nil => simp
  | cons w waits ih =>
    obtain ⟨hw, hwaits⟩ := List.forall_mem_cons.1 h
    have hfirst := hw.looks_le base
    have hothers := ih hwaits
    rw [List.flatMap_cons, List.countP_append, List.length_cons, Nat.mul_succ]
    omega

end Wait

/-! ## One container -/

/-- The last look that is allowed ends the wait, whatever it finds. -/
theorem awaitRunning_last_yields {base attempt : Nat} {id : String} {t : Trace}
    {r : Except (Failure ContainerError) Unit} :
    (awaitRunning base id attempt 0).run.Yields t r ↔
      ∃ last, t = [look id last] ∧ r = Wait.verdict ⟨id, [], last⟩ := by
  unfold awaitRunning
  rw [yields_call_bind]
  constructor
  · rintro (⟨e, rfl, rfl⟩ | ⟨c, u, rfl, hrest⟩)
    · exact ⟨.error e, rfl, rfl⟩
    · refine ⟨.ok c, ?_⟩
      by_cases hc : c.state = .running
      · rw [if_pos hc, Task.yields_pure] at hrest
        obtain ⟨rfl, rfl⟩ := hrest
        exact ⟨rfl, (Wait.verdict_running hc).symm⟩
      · rw [if_neg hc, Task.yields_fail] at hrest
        obtain ⟨rfl, rfl⟩ := hrest
        exact ⟨rfl, (Wait.verdict_not_running hc).symm⟩
  · rintro ⟨e | c, rfl, rfl⟩
    · exact .inl ⟨e, rfl, rfl⟩
    · refine .inr ⟨c, [], rfl, ?_⟩
      by_cases hc : c.state = .running
      · rw [if_pos hc, Task.yields_pure]
        exact ⟨rfl, Wait.verdict_running hc⟩
      · rw [if_neg hc, Task.yields_fail]
        exact ⟨rfl, Wait.verdict_not_running hc⟩

/-- A look that is not the last one allowed ends the wait if it finds the container running or fails.
Otherwise there is a pause, and the wait goes on. -/
theorem awaitRunning_next_yields {base attempt left : Nat} {id : String}
    (hfits : base * attempt ≤ maxPause) {t : Trace} {r : Except (Failure ContainerError) Unit} :
    (awaitRunning base id attempt (left + 1)).run.Yields t r ↔
      (∃ last, (∀ c, last = .ok c → c.state = .running) ∧
        t = [look id last] ∧ r = Wait.verdict ⟨id, [], last⟩) ∨
      ∃ c u, c.state ≠ .running ∧ t = look id (.ok c) :: ⟨.pause (base * attempt), ()⟩ :: u ∧
        (awaitRunning base id (attempt + 1) left).run.Yields u r := by
  rw [awaitRunning, yields_call_bind]
  constructor
  · rintro (⟨e, rfl, rfl⟩ | ⟨c, u, rfl, hrest⟩)
    · exact .inl ⟨.error e, fun c h => by simp at h, rfl, rfl⟩
    · by_cases hc : c.state = .running
      · rw [if_pos hc, Task.yields_pure] at hrest
        obtain ⟨rfl, rfl⟩ := hrest
        refine .inl ⟨.ok c, fun c' h => ?_, rfl, (Wait.verdict_running hc).symm⟩
        obtain rfl : c = c' := Except.ok.inj h
        exact hc
      · rw [if_neg hc] at hrest
        simp only [if_neg (Nat.not_lt.2 hfits)] at hrest
        obtain ⟨_, u, rfl, hwait⟩ := Task.yields_ask_bind.1 hrest
        exact .inr ⟨c, u, hc, rfl, hwait⟩
  · rintro (⟨e | c, hlast, rfl, rfl⟩ | ⟨c, u, hc, rfl, hwait⟩)
    · exact .inl ⟨e, rfl, rfl⟩
    · have hc : c.state = .running := hlast c rfl
      refine .inr ⟨c, [], rfl, ?_⟩
      rw [if_pos hc, Task.yields_pure]
      exact ⟨rfl, Wait.verdict_running hc⟩
    · refine .inr ⟨c, _, rfl, ?_⟩
      rw [if_neg hc]
      simp only [if_neg (Nat.not_lt.2 hfits)]
      exact Task.yields_ask_bind.2 ⟨(), u, rfl, hwait⟩

/-- The traces of a wait with looks left are those of the waits that may take one look more. -/
theorem awaitRunning_yields {base attempt left : Nat} {id : String}
    (hfits : ∀ n < attempt + left, base * n ≤ maxPause) {t : Trace}
    {r : Except (Failure ContainerError) Unit} :
    (awaitRunning base id attempt left).run.Yields t r ↔
      ∃ before last, Wait.Within (left + 1) ⟨id, before, last⟩ ∧
        t = Wait.traceFrom base attempt ⟨id, before, last⟩ ∧ r = Wait.verdict ⟨id, before, last⟩ := by
  -- on the looks that are left: a wait that goes on is the wait from its second look on
  induction left generalizing attempt t with
  | zero =>
    rw [awaitRunning_last_yields]
    constructor
    · rintro ⟨last, rfl, rfl⟩
      exact ⟨[], last, Wait.within_nil.2 fun _ _ _ => rfl, Wait.traceFrom_nil.symm, rfl⟩
    · rintro ⟨before, last, hwithin, rfl, rfl⟩
      cases before with
      | nil => exact ⟨last, Wait.traceFrom_nil, rfl⟩
      | cons c before => exact absurd hwithin.short (by simp)
  | succ left ih =>
    have hnext : ∀ n < attempt + 1 + left, base * n ≤ maxPause := fun n hn => hfits n (by omega)
    rw [awaitRunning_next_yields (hfits attempt (by omega))]
    constructor
    · rintro (⟨last, hlast, rfl, rfl⟩ | ⟨c, u, hc, rfl, hwait⟩)
      · refine ⟨[], last, Wait.within_nil.2 fun c h hc => ?_, Wait.traceFrom_nil.symm, rfl⟩
        exact absurd (hlast c h) hc
      · obtain ⟨before, last, hwithin, rfl, rfl⟩ := (ih hnext).1 hwait
        exact ⟨c :: before, last, Wait.within_cons.2 ⟨hc, hwithin⟩, Wait.traceFrom_cons.symm, rfl⟩
    · rintro ⟨before, last, hwithin, rfl, rfl⟩
      cases before with
      | nil =>
        refine .inl ⟨last, fun c h => ?_, Wait.traceFrom_nil, rfl⟩
        by_cases hc : c.state = .running
        · exact hc
        · exact absurd (Wait.within_nil.1 hwithin c h hc) (Nat.succ_ne_zero left)
      | cons c before =>
        obtain ⟨hc, hwithin⟩ := Wait.within_cons.1 hwithin
        refine .inr ⟨c, _, hc, Wait.traceFrom_cons, (ih hnext).2 ⟨before, last, hwithin, rfl, rfl⟩⟩

/-! ## Containers in turn -/

/-- These are the waits of a health check of containers, and this is its outcome: it waits for the first
containers, in order. All but the last wait see their containers run. The last one does too if every
container was waited for, and else it is the wait that the check fails with. -/
structure Checked (budget : Nat) (containers : List Container) (waits : List Wait)
    (outcome : Except (Failure ContainerError) Unit) : Prop where
  inOrder : waits.map Wait.id <+: containers.map Container.id
  within : ∀ w ∈ waits, w.Within budget
  ended : (outcome = .ok () ∧ waits.length = containers.length ∧ ∀ w ∈ waits, w.verdict = .ok ()) ∨
    ∃ seen w e, waits = seen ++ [w] ∧ (∀ w ∈ seen, w.verdict = .ok ()) ∧ w.verdict = .error e ∧
      outcome = .error e

namespace Checked

variable {budget : Nat} {c : Container} {rest : List Container} {w : Wait} {waits : List Wait}
  {outcome : Except (Failure ContainerError) Unit}

theorem none : Checked budget [] [] (.ok ()) where
  inOrder := List.prefix_rfl
  within := fun w hw => by cases hw
  ended := .inl ⟨rfl, rfl, fun w hw => by cases hw⟩

theorem eq_of_none (h : Checked budget [] waits outcome) : waits = [] ∧ outcome = .ok () := by
  have hwaits : waits = [] := List.map_eq_nil_iff.1 (List.prefix_nil.1 h.inOrder)
  obtain ⟨houtcome, -, -⟩ | ⟨seen, w, e, hseen, -, -, -⟩ := h.ended
  · exact ⟨hwaits, houtcome⟩
  · rw [hwaits] at hseen
    simp at hseen

/-- The first container runs, and the others are checked. -/
theorem running (hid : w.id = c.id) (hwithin : w.Within budget) (hw : w.verdict = .ok ())
    (h : Checked budget rest waits outcome) : Checked budget (c :: rest) (w :: waits) outcome where
  inOrder := by
    rw [List.map_cons, List.map_cons, hid]
    exact (List.prefix_cons_inj _).2 h.inOrder
  within := List.forall_mem_cons.2 ⟨hwithin, h.within⟩
  ended := by
    obtain ⟨houtcome, hlength, hall⟩ | ⟨seen, w', e, rfl, hseen, hw', houtcome⟩ := h.ended
    · exact .inl ⟨houtcome, congrArg (· + 1) hlength, List.forall_mem_cons.2 ⟨hw, hall⟩⟩
    · exact .inr ⟨w :: seen, w', e, rfl, List.forall_mem_cons.2 ⟨hw, hseen⟩, hw', houtcome⟩

/-- The first container does not come to run. -/
theorem stopped {e : Failure ContainerError} (hid : w.id = c.id) (hwithin : w.Within budget)
    (hw : w.verdict = .error e) : Checked budget (c :: rest) [w] (.error e) where
  inOrder := by
    rw [List.map_cons, List.map_cons, hid]
    exact (List.prefix_cons_inj _).2 (List.nil_prefix)
  within := List.forall_mem_cons.2 ⟨hwithin, fun w hw => by cases hw⟩
  ended := .inr ⟨[], w, e, rfl, fun w hw => (by cases hw), hw, rfl⟩

/-- There are no other checks of a container and others. -/
theorem uncons (h : Checked budget (c :: rest) waits outcome) :
    ∃ w others, waits = w :: others ∧ w.id = c.id ∧ w.Within budget ∧
      ((∃ e, w.verdict = .error e ∧ others = [] ∧ outcome = .error e) ∨
        (w.verdict = .ok () ∧ Checked budget rest others outcome)) := by
  cases waits with
  | nil =>
    obtain ⟨-, hlength, -⟩ | ⟨seen, w, e, hseen, -, -, -⟩ := h.ended
    · simp at hlength
    · simp at hseen
  | cons w others =>
    have horder := h.inOrder
    rw [List.map_cons, List.map_cons, List.cons_prefix_cons] at horder
    obtain ⟨hid, horder⟩ := horder
    obtain ⟨hwithin, hothers⟩ := List.forall_mem_cons.1 h.within
    refine ⟨w, others, rfl, hid, hwithin, ?_⟩
    obtain ⟨houtcome, hlength, hall⟩ | ⟨seen, w', e, hwaits, hseen, hw', houtcome⟩ := h.ended
    · obtain ⟨hw, hall⟩ := List.forall_mem_cons.1 hall
      exact .inr ⟨hw, horder, hothers, .inl ⟨houtcome, Nat.succ.inj hlength, hall⟩⟩
    · cases seen with
      | nil =>
        obtain ⟨rfl, rfl⟩ := List.cons.inj hwaits
        exact .inl ⟨e, hw', rfl, houtcome⟩
      | cons first seen =>
        obtain ⟨rfl, rfl⟩ := List.cons.inj hwaits
        obtain ⟨hw, hseen⟩ := List.forall_mem_cons.1 hseen
        exact .inr ⟨hw, horder, hothers, .inr ⟨seen, w', e, rfl, hseen, hw', houtcome⟩⟩

/-- A check looks at each container at most as often as it may. -/
theorem looks_le {containers : List Container} (h : Checked budget containers waits outcome)
    (base : Nat) :
    (waits.flatMap (Wait.trace base)).countP isLook ≤ budget * containers.length := by
  have hlength : waits.length ≤ containers.length := by simpa using h.inOrder.length_le
  calc (waits.flatMap (Wait.trace base)).countP isLook
      ≤ budget * waits.length := Wait.looks_flatMap_le h.within base
    _ ≤ budget * containers.length := Nat.mul_le_mul_left budget hlength

end Checked

/-- The traces of a health check are those of the waits of one. -/
theorem healthCheck_yields {f : Fleet} {retries : UInt32} {containers : List Container}
    (hfits : ∀ n < max retries.toNat 1, f.health.backoffBase.toNat * n ≤ maxPause)
    {t : Trace} {outcome : Except (Failure ContainerError) Unit} :
    (f.healthCheck retries containers).run.Yields t outcome ↔
      ∃ waits, Checked (max retries.toNat 1) containers waits outcome ∧
        t = waits.flatMap (Wait.trace f.health.backoffBase.toNat) := by
  have hbudget : retries.toNat - 1 + 1 = max retries.toNat 1 := by omega
  induction containers generalizing t with
  | nil =>
    rw [healthCheck, Task.yields_pure]
    constructor
    · rintro ⟨rfl, rfl⟩
      exact ⟨[], .none, rfl⟩
    · rintro ⟨waits, hchecked, rfl⟩
      obtain ⟨rfl, rfl⟩ := hchecked.eq_of_none
      exact ⟨rfl, rfl⟩
  | cons c rest ih =>
    have hwait := @awaitRunning_yields f.health.backoffBase.toNat 1 (retries.toNat - 1) c.id
      fun n hn => hfits n (by omega)
    rw [healthCheck, Task.yields_bind]
    simp only [hwait, hbudget, ih]
    constructor
    · rintro (⟨e, rfl, before, last, hwithin, rfl, hverdict⟩
        | ⟨_, _, _, rfl, ⟨before, last, hwithin, rfl, hverdict⟩, waits, hchecked, rfl⟩)
      · exact ⟨[⟨c.id, before, last⟩], .stopped rfl hwithin hverdict.symm, by simp [Wait.trace]⟩
      · exact ⟨⟨c.id, before, last⟩ :: waits, hchecked.running rfl hwithin hverdict.symm, rfl⟩
    · rintro ⟨waits, hchecked, rfl⟩
      obtain ⟨⟨_, before, last⟩, others, rfl, rfl, hwithin, hend⟩ := hchecked.uncons
      obtain ⟨e, hverdict, rfl, rfl⟩ | ⟨hverdict, hothers⟩ := hend
      · exact .inl ⟨e, rfl, before, last, hwithin, by simp [Wait.trace], hverdict.symm⟩
      · exact .inr ⟨(), _, _, rfl, ⟨before, last, hwithin, rfl, hverdict.symm⟩, others, hothers, rfl⟩

/-- **What a health check does.** Whoever answers, it comes to an end. It is a list of waits for the first
containers in order, with at most `max retries 1` looks each and growing pauses between the looks of one
wait; it ends well if each of its waits saw its container run and no container is left, and otherwise with
what ended its last wait. So it looks at most `max retries 1` times the number of containers. -/
theorem health_checked (f : Fleet) (retries : UInt32) (containers : List Container)
    (hfits : ∀ n < max retries.toNat 1, f.health.backoffBase.toNat * n ≤ maxPause) :
    (∀ answer, ∃ t outcome, (f.healthCheck retries containers).run.Yields t outcome ∧
      t.AnsweredBy answer) ∧
    ∀ t outcome,
      ((f.healthCheck retries containers).run.Yields t outcome ↔
        ∃ waits, Checked (max retries.toNat 1) containers waits outcome ∧
          t = waits.flatMap (Wait.trace f.health.backoffBase.toNat)) ∧
      ((f.healthCheck retries containers).run.Yields t outcome →
        t.countP isLook ≤ max retries.toNat 1 * containers.length) := by
  refine ⟨(f.healthCheck retries containers).run.exists_yields, fun t outcome => ?_⟩
  refine ⟨healthCheck_yields hfits, fun h => ?_⟩
  obtain ⟨waits, hchecked, rfl⟩ := (healthCheck_yields hfits).1 h
  exact hchecked.looks_le f.health.backoffBase.toNat

/-- A container that has not been started. -/
def waiting : Container := Memory.newContainer (specFor {} (.new "api" "nginx") "api-1" []) "c1" .epoch

/-- A wait that takes both looks it may, and sees the container run at the second. -/
def patience : Wait := ⟨"c1", [waiting], .ok { waiting with state := .running }⟩

/-- With two looks allowed, it is a health check. -/
theorem health_checked_secondLook :
    (∀ n < max (2 : UInt32).toNat 1, ({} : Fleet).health.backoffBase.toNat * n ≤ maxPause) ∧
      (({} : Fleet).healthCheck 2 [waiting]).run.Yields
        [look "c1" (.ok waiting), ⟨.pause 10000, ()⟩, look "c1" (.ok { waiting with state := .running })]
        (.ok ()) := by
  have hfits : ∀ n < max (2 : UInt32).toNat 1, ({} : Fleet).health.backoffBase.toNat * n ≤ maxPause := by
    decide
  have hwithin : patience.Within 2 := by
    refine ⟨by decide, fun c hc => ?_, fun _ _ _ => rfl⟩
    obtain rfl := List.mem_singleton.1 hc
    decide
  refine ⟨hfits, ((health_checked {} 2 [waiting] hfits).2 _ _).1.2 ⟨[patience], ?_, rfl⟩⟩
  exact Checked.running rfl hwithin (Wait.verdict_running rfl) .none

end Orchestrator.Fleet
