import Orchestrator.Proofs.Drift.Draining

/-!
# Drift is repaired and then left alone

When a pass and the workers are done, the state of the round (`Patrolled`) tells what is left. The jobs
of a deployment that have begun are the one that was offered for it, if any, and where nobody makes an
attempt the containers have the shape of these jobs: so they are the replicas of that one rollout
(`Patrolled.renewed`), or those of the beginning (`Patrolled.untouched`). The pass counts what a rollout
leaves, so another pass finds nothing to do; and since the daemon is idle again (`Patrolled.idle`), this
is a matter of applying the same to a second round (`Idle.rests`).

Main statement: `Round.repairs`.
-/
namespace Orchestrator

open Engine Daemon

section

variable {k : Terms} {s₀ s t : Daemon} {saved given : List Deployment} {h : History} {i : Nat}
  {w w' : Worker} {name : String}

/-- Where no key is used twice, there is one entry with a key. -/
theorem filter_eq_singleton {α β : Type} [DecidableEq β] {f : α → β} {l : List α} {a : α}
    (hnodup : (l.map f).Nodup) (ha : a ∈ l) : (l.filter fun b => decide (f b = f a)) = [a] := by
  induction l with
  | nil => cases ha
  | cons b l ih =>
    rw [List.map_cons, List.nodup_cons] at hnodup
    rcases List.mem_cons.1 ha with rfl | ha
    · have hnone : (l.filter fun b => decide (f b = f a)) = [] := by
        rw [List.filter_eq_nil_iff]
        intro b hb heq
        exact hnodup.1 (List.mem_map.2 ⟨b, hb, of_decide_eq_true heq⟩)
      rw [List.filter_cons_of_pos (by simp), hnone]
    · have hne : f b ≠ f a := by
        intro heq
        exact hnodup.1 (heq ▸ List.mem_map_of_mem ha)
      rw [List.filter_cons_of_neg (by simpa using hne), ih hnodup.2 ha]

namespace Patrolled

/-- In a drained daemon the jobs of a deployment that have begun are those that were offered for it. -/
theorem begun_perm (hx : Patrolled k s₀ saved given h s) (hs₀ : s₀.Idle k saved) (hdrained : s.Drained)
    (name : String) :
    ((h.begun name).map Job.work).Perm
      ((given.filter fun d => decide (d.name = name)).map fun d => .create d [] []) := by
  have hnone : s.unbegun = [] := by
    rw [unbegun, List.filterMap_eq_nil_iff]
    intro w hw
    have hjob := hdrained.workers w hw
    cases w <;> first | rfl | cases hjob
  have hperm := hx.run.begun_perm hs₀.unoccupied
  have haccepted := hx.accepted_eq hs₀
  rw [hdrained.line, List.append_nil] at haccepted
  rw [hnone, List.append_nil, ← haccepted] at hperm
  have hoffered : (jobsOf name h.accepted).map Job.work
      = (given.filter fun d => decide (d.name = name)).map fun d => .create d [] [] := by
    have hpairs := congrArg (fun l => (l.filter fun p : String × Work => decide (p.1 = name)).map Prod.snd)
      hx.accepted
    simpa only [jobsOf, List.filter_map, List.map_map, Function.comp_def] using hpairs
  rw [← hoffered]
  exact ((hperm.filter fun job => decide (job.scope = name)).map Job.work).symm

/-- Once a job was offered for a deployment and all jobs are done, the deployment's containers are the
replicas of its rollout. -/
theorem renewed (hx : Patrolled k s₀ saved given h s) (hs₀ : s₀.Idle k saved) (hdrained : s.Drained)
    {d : Deployment} (hd : d ∈ given) : (s.memory.owned d.name).length = d.scale.toNat ∧
      ∀ c ∈ s.memory.owned d.name, c.container.state = .running ∧
        c.id ∉ s₀.memory.containers.map Created.id := by
  have hperm := hx.begun_perm hs₀ hdrained d.name
  rw [filter_eq_singleton hx.nodup hd, List.map_singleton, List.perm_singleton] at hperm
  obtain ⟨job, hbegun, hwork⟩ := List.map_eq_singleton_iff.1 hperm
  have hreached : k.reached h d.name = .rolledOut d := by
    rw [Terms.reached, hbegun, Terms.shape, List.foldl_cons, List.foldl_nil, hwork]
    exact Terms.after_create (.inr (Terms.exists_env hs₀.ready.hold hs₀.secrets d))
  have hfits : (k.reached h d.name).Fits k s₀ d.name (s.memory.owned d.name) := by
    apply (hx.serial hs₀).free d.name
    intro w hw hattempts
    exact hattempts.job?_ne_none (hdrained.workers w hw)
  rw [hreached] at hfits
  obtain ⟨hlength, hfresh⟩ := hfits
  refine ⟨hlength, fun c hc => ?_⟩
  have hnew := hfresh c hc
  exact ⟨hnew.state_eq, hnew.1.not_mem hs₀.ready.steady (Nat.le_refl _)⟩

/-- When all jobs are done, another pass may begin. -/
theorem idle (hx : Patrolled k s₀ saved given h s) (hs₀ : s₀.Idle k saved) (hdrained : s.Drained) :
    s.Idle k saved := by
  have hserial := hx.serial hs₀
  have hworkers : ∀ w ∈ s.workers, w = .idle := by
    intro w hw
    exact Worker.eq_idle (hdrained.workers w hw) (hx.alive w hw)
  have hunoccupied : s.Unoccupied := by
    refine ⟨hworkers, fun d => ?_⟩
    rw [List.eq_nil_iff_forall_not_mem]
    intro i hi
    have hview := (((hx.run.lined hs₀.unoccupied).2 d).mem i).1 hi
    cases hw : s.workers[i]? with
    | none =>
      rw [view, hw] at hview
      cases hview
    | some w =>
      obtain rfl := hworkers w (List.mem_of_getElem? hw)
      rw [view_eq hw] at hview
      cases hview
  refine ⟨hunoccupied, ⟨hserial.calm.steady, hserial.calm.hold, hserial.executor, ?_⟩, hx.service,
    hdrained.line, fun d => ?_, ?_, ?_, hx.saved, hx.secrets⟩
  · rw [hdrained.line]
    exact fun _ hjob => by cases hjob
  · apply hx.counted.contains_eq_false
    · rw [hdrained.line]
      rfl
    · rw [hunoccupied.held_eq_nil]
      rfl
  · rw [hx.capacity]
    exact hs₀.capacity
  · rw [hx.attempts]
    exact hs₀.attempts

end Patrolled

/-! ## What a round leaves -/

/-- What a round that began in `s₀` leaves of a deployment. It has enough running containers: if it
lacked some, they are new, all of them run, and there are just as many as its scale; if it lacked none,
they are those that it had. -/
structure Repaired (s₀ s : Daemon) (d : Deployment) : Prop where
  full : d.scale.toNat ≤ s.running d.name
  renewed : s₀.Lacks d → (s.memory.owned d.name).length = d.scale.toNat ∧
    ∀ c ∈ s.memory.owned d.name, c.container.state = .running ∧
      c.id ∉ s₀.memory.containers.map Created.id
  kept : ¬ s₀.Lacks d → s.memory.owned d.name = s₀.memory.owned d.name

/-- Where all containers run, they are counted. -/
theorem Daemon.running_eq_length (hall : ∀ c ∈ s.memory.owned name, c.container.state = .running) :
    s.running name = (s.memory.owned name).length := by
  rw [running, List.filter_eq_self.2, List.length_map]
  intro c hc
  obtain ⟨c, hmem, rfl⟩ := List.mem_map.1 hc
  exact decide_eq_true (hall c hmem)

theorem Daemon.running_congr (hsame : s.memory.owned name = s₀.memory.owned name) :
    s.running name = s₀.running name := by
  rw [running, running, hsame]

namespace Patrolled

/-- No job was offered for a deployment that lacks nothing. -/
theorem notMem_of_not_lacks (hx : Patrolled k s₀ saved given h s) (hs₀ : s₀.Idle k saved)
    {d : Deployment} (hd : d ∈ saved) (hfull : ¬ s₀.Lacks d) : d.name ∉ given.map Deployment.name := by
  intro hmem
  obtain ⟨e, he, hname⟩ := List.mem_map.1 hmem
  obtain ⟨hsaved, hlacks⟩ := hx.among e he
  obtain rfl := List.inj_on_of_nodup_map hs₀.saved.nodup hsaved hd hname
  exact hfull hlacks

/-- When the pass has offered jobs for all deployments that lacked containers, and all jobs are done,
every deployment is repaired. -/
theorem repaired (hx : Patrolled k s₀ saved given h s) (hs₀ : s₀.Idle k saved) (hdrained : s.Drained)
    (hgiven : given = saved.filter fun d => decide (s₀.Lacks d)) {d : Deployment} (hd : d ∈ saved) :
    Repaired s₀ s d := by
  have mem_given (hlacks : s₀.Lacks d) : d ∈ given := by
    rw [hgiven, List.mem_filter]
    exact ⟨hd, decide_eq_true hlacks⟩
  have kept (hfull : ¬ s₀.Lacks d) : s.memory.owned d.name = s₀.memory.owned d.name :=
    (hx.untouched hs₀ (hx.notMem_of_not_lacks hs₀ hd hfull)).2
  refine ⟨?_, fun hlacks => hx.renewed hs₀ hdrained (mem_given hlacks), kept⟩
  by_cases hlacks : s₀.Lacks d
  · obtain ⟨hlength, hnew⟩ := hx.renewed hs₀ hdrained (mem_given hlacks)
    have hrunning : s.running d.name = d.scale.toNat :=
      (running_eq_length fun c hc => (hnew c hc).1).trans hlength
    exact Nat.le_of_eq hrunning.symm
  · rw [running_congr (kept hlacks)]
    exact Nat.not_lt.1 hlacks

/-- Where no job was offered, there is none. -/
theorem drained_of_nil (hx : Patrolled k s₀ saved [] h s) (hs₀ : s₀.Idle k saved) : s.Drained := by
  have haccepted := hx.accepted_eq hs₀
  rw [List.map_eq_nil_iff.1 hx.accepted] at haccepted
  obtain ⟨htaken, hline⟩ := List.append_eq_nil_iff.1 haccepted.symm
  refine ⟨hline, fun w hw => ?_⟩
  cases hjob : w.job? with
  | none => rfl
  | some job =>
    have hheld : w.held?.isSome := Worker.held?_isSome (by rw [hjob]; rfl)
    obtain ⟨job', hheld⟩ := Option.isSome_iff_exists.1 hheld
    have hmem : job' ∈ s.held := List.mem_filterMap.2 ⟨w, hw, hheld⟩
    have hpos := tally_pos_iff.2 ⟨job', hmem, rfl⟩
    have hle := (hx.run.held_le hs₀.unoccupied (inScope job'.scope)).2
    rw [htaken, tally_nil] at hle
    omega

end Patrolled

namespace Daemon

/-- Along a round the pass is patrolled, and reports what it found in the beginning. -/
theorem Idle.reports (hs₀ : s₀.Idle k saved) {x : Round}
    (hleads : Round.Leads ⟨s₀, (Drift.poll s₀.driftAttempts saved).run⟩ x) :
    ∃ given h, Patrolled k s₀ saved given h x.daemon ∧ ∀ outcome, x.rest = .done outcome →
      outcome = .ok (saved.map s₀.finding) ∧ given = saved.filter fun d => decide (s₀.Lacks d) := by
  have hpoll : (Drift.poll s₀.driftAttempts saved).Meets (.patrol s₀ saved) _ (fun _ _ => False) [] :=
    Drift.poll_patrol (List.Subset.refl saved) hs₀.saved.nodup fun _ _ hmem => by cases hmem
  obtain ⟨given, h, hx, hrest⟩ := hs₀.leads hpoll hleads
  refine ⟨given, h, hx, fun outcome hdone => ?_⟩
  rw [hdone] at hrest
  cases outcome with
  | ok report =>
    obtain ⟨hreport, hgiven⟩ := hrest
    exact ⟨congrArg Except.ok hreport, hgiven⟩
  | error e => exact hrest.elim

/-- If no deployment lacks containers, a round changes none, makes no job, and finds that all is
well. -/
theorem Idle.rests (hs₀ : s₀.Idle k saved) (hfull : ∀ d ∈ saved, ¬ s₀.Lacks d) {x : Round}
    (hleads : Round.Leads ⟨s₀, (Drift.poll s₀.driftAttempts saved).run⟩ x) :
    x.daemon.Drained ∧ (∀ name, x.daemon.memory.owned name = s₀.memory.owned name) ∧
      ∀ outcome, x.rest = .done outcome → outcome = .ok (saved.map fun d => (d.name, .satisfied)) := by
  obtain ⟨given, h, hx, hreport⟩ := hs₀.reports hleads
  have hnone : given = [] := by
    rw [List.eq_nil_iff_forall_not_mem]
    intro d hd
    obtain ⟨hsaved, hlacks⟩ := hx.among d hd
    exact hfull d hsaved hlacks
  subst hnone
  refine ⟨hx.drained_of_nil hs₀, fun name => (hx.untouched hs₀ List.not_mem_nil).2, ?_⟩
  intro outcome hdone
  rw [(hreport outcome hdone).1]
  refine congrArg Except.ok (List.map_congr_left fun d hd => ?_)
  rw [finding, if_neg (hfull d hd)]

end Daemon

/-- Drift is repaired, and then left alone. A round begins in an idle daemon in which nothing goes
wrong, and the pass and any number of workers take steps in any order. The pass reports each deployment
that lacked containers as queued, and all others as satisfied. Once the pass and the jobs are done, which
the workers can always bring about, every saved deployment is repaired, and nobody else's containers have
changed. From then on another round makes no job, changes no containers, and its pass reports every
deployment as satisfied. -/
theorem Round.repairs (hs₀ : s₀.Idle k saved) : ∃ x₀, Round.begin? s₀ = .ok x₀ ∧
    ∀ x, x₀.Leads x →
      (s₀.workers ≠ [] → ∃ y outcome, x.Leads y ∧ y.rest = .done outcome ∧ y.daemon.Drained) ∧
      ∀ outcome, x.rest = .done outcome → outcome = .ok (saved.map s₀.finding) ∧
        (x.daemon.Drained → (∀ d ∈ saved, Repaired s₀ x.daemon d) ∧
          (∀ name, name ∉ saved.map Deployment.name →
            x.daemon.memory.owned name = s₀.memory.owned name) ∧
          ∃ y₀, Round.begin? x.daemon = .ok y₀ ∧ ∀ y, y₀.Leads y → y.daemon.Drained ∧
            (∀ name, y.daemon.memory.owned name = x.daemon.memory.owned name) ∧
            ∀ outcome, y.rest = .done outcome →
              outcome = .ok (saved.map fun d => (d.name, .satisfied))) := by
  refine ⟨⟨s₀, (Drift.poll s₀.driftAttempts saved).run⟩, ?_, fun x hleads => ⟨fun hworkers => ?_, ?_⟩⟩
  · rw [Round.begin?, hs₀.saved.deployments]
    rfl
  · -- the pass goes first to its end, and then the workers to theirs
    obtain ⟨y, outcome, hpass, hdone⟩ := x.finishes
    obtain ⟨given, h, hy, -⟩ := hs₀.reports (hleads.trans hpass)
    obtain ⟨t, h', hworks, -, hdrained⟩ := hy.drains hs₀ hworkers
    exact ⟨⟨t, y.rest⟩, outcome, hpass.trans (hworks.leads y.rest), hdone, hdrained⟩
  · intro outcome hdone
    obtain ⟨given, h, hx, hreport⟩ := hs₀.reports hleads
    obtain ⟨houtcome, hgiven⟩ := hreport outcome hdone
    refine ⟨houtcome, fun hdrained => ?_⟩
    have hrepaired : ∀ d ∈ saved, Repaired s₀ x.daemon d := fun d hd => hx.repaired hs₀ hdrained hgiven hd
    have hidle := hx.idle hs₀ hdrained
    refine ⟨hrepaired, fun name hname => ?_, ⟨x.daemon, (Drift.poll x.daemon.driftAttempts saved).run⟩, ?_,
      fun y hleads' => hidle.rests (fun d hd => ?_) hleads'⟩
    · refine (hx.untouched hs₀ fun hmem => hname ?_).2
      obtain ⟨d, hd, rfl⟩ := List.mem_map.1 hmem
      exact List.mem_map_of_mem (hx.among d hd).1
    · rw [Round.begin?, hidle.saved.deployments]
      rfl
    · exact Nat.not_lt.2 (hrepaired d hd).full

end

/-- Two deployments that are saved. -/
def twoSaved : List Deployment :=
  [{ Deployment.new "api" "nginx" with scale := 2 }, Deployment.new "web" "caddy"]

/-- They have a container each. That of the first has exited, and that of the second runs. -/
def drifted : Daemon :=
  let container (d : Deployment) (id : String) (state : ContainerState) : Created :=
    let spec := Fleet.specFor {} d (d.name ++ "-0") []
    ⟨spec, { Memory.newContainer spec id .epoch with state := state }⟩
  { engine.memory.networks := .ofList [("hoist", ⟨"net-1", "hoist"⟩)]
    engine.memory.containers :=
      (twoSaved.zip [("c1", .exited), ("c2", .running)]).map fun (d, id, state) => container d id state
    engine.memory.created := 2
    store := twoSaved.foldl (fun s d => (s.saveDeployment d).2) .new
    queue := .new 2
    pool := some (Pool.new 2).start }

theorem holds_drifted : drifted.store.Holds twoSaved :=
  ⟨rfl, by decide +kernel⟩

theorem secretsReadable_drifted : drifted.store.SecretsReadable :=
  (Store.secretsReadable_new.saveDeployment _).saveDeployment _

def driftedTerms : Terms :=
  ⟨⟨"net-1", "hoist"⟩, drifted.store.getSecret, drifted.ending, 0⟩

theorem ready_drifted : drifted.Ready driftedTerms where
  steady := by
    refine ⟨rfl, by decide +kernel, fun c hc n hn => ?_⟩
    have hid : c.id = Memory.numbered "c" 1 ∨ c.id = Memory.numbered "c" 2 := by
      revert c
      decide +kernel
    have hn' : 2 < n := hn
    rcases hid with hid | hid <;> intro heq
    · have := Memory.numbered_injective (hid.symm.trans heq)
      omega
    · have := Memory.numbered_injective (hid.symm.trans heq)
      omega
  hold :=
    { pulls := rfl
      creates := rfl
      starts := rfl
      network := by decide +kernel
      secrets := fun _ _ => rfl
      ending := rfl
      base := Nat.zero_le _
      distinct := fun _ _ _ _ hmn => Terms.name_ne_name rfl hmn
      named := by
        -- names that are still to be given are longer
        have hshort : ∀ c ∈ drifted.memory.containers, c.spec.name.length = 5 := by decide +kernel
        intro c hc
        refine .inl fun d n _ heq => ?_
        have hlong : (driftedTerms.name d n).length = d.length + 1 + (Text.hexPadded 8 n).length := by
          change (d ++ "-" ++ String.ofList (Text.hexPadded 8 n)).length = _
          simp [show "-".length = 1 from rfl]
        rw [← heq, hshort c hc, Text.hexPadded, List.length_append, List.length_replicate] at hlong
        omega }
  executor := rfl
  line := by decide +kernel

theorem idle_drifted : drifted.Idle driftedTerms twoSaved where
  unoccupied := by
    refine ⟨fun w hw => ?_, fun _ => rfl⟩
    have hidle : drifted.workers = [.idle, .idle] := rfl
    rw [hidle] at hw
    simpa using hw
  ready := ready_drifted
  service := by
    refine ⟨rfl, rfl, rfl, rfl, rfl, fun pool hpool => ?_⟩
    obtain rfl := Option.some.inj hpool
    rfl
  line := rfl
  free _ := rfl
  capacity := by decide
  attempts := by decide
  saved := holds_drifted
  secrets := secretsReadable_drifted

/-- The pass and the workers can come to their ends. Then the first deployment has two new containers,
and the second the one that it had. -/
theorem repairs_drifted : ∃ x₀ x, Round.begin? drifted = .ok x₀ ∧ x₀.Leads x ∧
    x.rest = .done (.ok [("api", .enqueued), ("web", .satisfied)]) ∧ x.daemon.Drained ∧
    (x.daemon.memory.owned "api").length = 2 ∧
    (x.daemon.memory.owned "web").map Created.id = ["c2"] := by
  obtain ⟨x₀, hx₀, hround⟩ := Round.repairs idle_drifted
  obtain ⟨x, outcome, hleads, hdone, hdrained⟩ := (hround x₀ .here).1 (by decide +kernel)
  obtain ⟨rfl, hleaves⟩ := (hround x hleads).2 outcome hdone
  obtain ⟨hrepaired, -, -⟩ := hleaves hdrained
  have hfound : twoSaved.map drifted.finding = [("api", .enqueued), ("web", .satisfied)] := by
    decide +kernel
  rw [hfound] at hdone
  refine ⟨x₀, x, hx₀, hleads, hdone, hdrained, ?_, ?_⟩
  · exact ((hrepaired _ List.mem_cons_self).renewed (by decide +kernel)).1
  · have hkept := (hrepaired _ (List.mem_cons_of_mem _ List.mem_cons_self)).kept (by decide +kernel)
    exact (congrArg (List.map Created.id) hkept).trans (by decide +kernel)

end Orchestrator
