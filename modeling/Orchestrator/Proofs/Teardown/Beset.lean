import Orchestrator.Pool
import Orchestrator.Proofs.Daemon.Shared

/-!
# A teardown whose containers vanish

While a deployment is torn down others may start, stop and remove its containers between any two
requests of the job, and do as they like with those of other deployments; they only add none under its
label (`Meddling`). The job goes by the identifiers it has listed. It may stop a container that is
stopped, and it may not find one, but an identifier never comes to mean another container (`Beset`). So
what it ends is of its deployment, and every container of the deployment is in what is left of its list.

Main statement: `Executor.tears_down`.
-/
namespace Orchestrator

open Engine

/-! ## What others may do -/

namespace Engine.Memory

variable {d : String} {m m' m'' : Memory}

/-- Containers may have gone or changed, but each that is there had its identifier and label before, or
it is new and of another deployment. -/
structure AddsNone (d : String) (m m' : Memory) : Prop where
  created : m.created ≤ m'.created
  origin : ∀ c ∈ m'.containers, (∃ c₀ ∈ m.containers, c₀.id = c.id ∧ c₀.owner? = c.owner?) ∨
    c.owner? ≠ some d ∧ ∃ n, m.created < n ∧ c.id = numbered "c" n

theorem addsNone_of_origin (hcreated : m.created ≤ m'.created)
    (h : ∀ c ∈ m'.containers, ∃ c₀ ∈ m.containers, c₀.id = c.id ∧ c₀.owner? = c.owner?) :
    AddsNone d m m' :=
  ⟨hcreated, fun c hc => .inl (h c hc)⟩

theorem addsNone_of_containers_eq (hcreated : m'.created = m.created)
    (h : m'.containers = m.containers) : AddsNone d m m' :=
  addsNone_of_origin (Nat.le_of_eq hcreated.symm) fun c hc => ⟨c, h ▸ hc, rfl, rfl⟩

theorem AddsNone.refl (m : Memory) : AddsNone d m m := addsNone_of_containers_eq rfl rfl

theorem AddsNone.trans (h : AddsNone d m m') (h' : AddsNone d m' m'') : AddsNone d m m'' where
  created := Nat.le_trans h.created h'.created
  origin c hc := by
    rcases h'.origin c hc with ⟨c', hc', hid', howner'⟩ | ⟨howner, n, hn, hid⟩
    · rcases h.origin c' hc' with ⟨c₀, hc₀, hid, howner⟩ | ⟨howner, n, hn, hid⟩
      · exact .inl ⟨c₀, hc₀, hid.trans hid', howner.trans howner'⟩
      · exact .inr ⟨howner' ▸ howner, n, hn, hid' ▸ hid⟩
    · exact .inr ⟨howner, n, Nat.lt_of_le_of_lt h.created hn, hid⟩

theorem addsNone_update {f : Container → Container} (id : String) (hid : ∀ c, (f c).id = c.id)
    (hlabels : ∀ c, (f c).labels = c.labels) : AddsNone d m (m.update id f) := by
  refine addsNone_of_origin (Nat.le_refl _) fun c hc => ?_
  rw [containers_update] at hc
  obtain ⟨c₀, hc₀, rfl⟩ := List.mem_map.1 hc
  exact ⟨c₀, hc₀, (Created.id_change hid c₀).symm, (Created.owner?_change hlabels c₀).symm⟩

theorem addsNone_drop (id : String) : AddsNone d m (m.drop id) :=
  addsNone_of_origin (Nat.le_refl _) fun c hc => ⟨c, (List.mem_filter.1 hc).1, rfl, rfl⟩

/-- Every call is of this kind but the creation of a container under the label. -/
theorem addsNone_serve (m : Memory) (now : Instant) {call : Call}
    (hcall : ∀ spec, call = .create spec → spec.labels.find? Container.ownerLabel ≠ some d) :
    AddsNone d m (m.serve now call).2 := by
  cases call with
  | create spec =>
    unfold Memory.serve create
    dsimp only
    split
    · exact addsNone_of_containers_eq rfl rfl
    · split
      · exact .refl m
      · refine ⟨Nat.le_succ _, fun c hc => ?_⟩
        rcases List.mem_append.1 hc with hc | hc
        · exact .inl ⟨c, hc, rfl, rfl⟩
        · obtain rfl := List.mem_singleton.1 hc
          exact .inr ⟨hcall spec rfl, m.created + 1, Nat.lt_succ_self _, rfl⟩
  | start id =>
    unfold Memory.serve start
    dsimp only
    split
    · exact .refl m
    · exact addsNone_update (f := fun c => { c with state := m.startState }) id (fun _ => rfl) fun _ => rfl
  | stop id =>
    unfold Memory.serve stop
    dsimp only
    split
    · exact .refl m
    · exact addsNone_update (f := fun c => { c with state := .exited }) id (fun _ => rfl) fun _ => rfl
  | remove id force =>
    unfold Memory.serve remove
    dsimp only
    split
    · exact .refl m
    · split
      · exact .refl m
      · exact addsNone_drop id
  | connect network container =>
    unfold Memory.serve connect
    dsimp only
    split
    · split
      · exact .refl m
      · exact addsNone_update (f := fun c => { c with networkId := some network }) container
          (fun _ => rfl) fun _ => rfl
    · exact .refl m
  | pull reference =>
    unfold Memory.serve pull
    dsimp only
    split <;> exact addsNone_of_containers_eq rfl rfl
  | list label value => exact .refl m
  | inspect id => exact addsNone_of_containers_eq rfl rfl
  | network name => exact .refl m
  | createNetwork name => exact addsNone_of_containers_eq rfl rfl

end Engine.Memory

/-- What others may do while a deployment is torn down: they change and remove what they like, and add
containers of other deployments only. -/
structure Meddling (d : String) (s t : Daemon) : Prop where
  steady : s.Steady → t.Steady
  adds : s.memory.AddsNone d t.memory

namespace Meddling

variable {d : String} {s t u : Daemon}

theorem refl (s : Daemon) : Meddling d s s := ⟨id, .refl _⟩

theorem trans (h : Meddling d s t) (h' : Meddling d t u) : Meddling d s u :=
  ⟨h'.steady ∘ h.steady, h.adds.trans h'.adds⟩

/-- Every call but the creation of a container under the label, whether it meets a fault or not. -/
theorem called (s : Daemon) {call : Call}
    (hcall : ∀ spec, call = .create spec → spec.labels.find? Container.ownerLabel ≠ some d) :
    Meddling d s (s.called call) := by
  refine ⟨fun hs => hs.called call, ?_⟩
  have served : (s.called call).memory = s.memory ∨
      (s.called call).memory = (s.memory.serve s.stamp.1 call).2 := by
    unfold Daemon.called Daemon.serve FaultyEngine.serve
    dsimp only
    split
    · exact .inl rfl
    · exact .inl rfl
    · exact .inr rfl
  rcases served with h | h <;> rw [h]
  · exact .refl _
  · exact Memory.addsNone_serve _ _ hcall

/-- A container goes into a state. -/
theorem setState (s : Daemon) (id : String) (state : ContainerState) :
    Meddling d s { s with engine.memory := s.memory.setState id state } :=
  ⟨fun hs => ⟨hs.faultless, hs.numbered.update (f := fun c => { c with state := state }) id fun _ => rfl⟩,
    Memory.addsNone_update (f := fun c => { c with state := state }) id (fun _ => rfl) fun _ => rfl⟩

theorem owned_eq_nil (h : Meddling d s t) (hs : s.memory.owned d = []) : t.memory.owned d = [] := by
  refine List.eq_nil_iff_forall_not_mem.2 fun c hc => ?_
  obtain ⟨hc, howner⟩ := Memory.mem_owned.1 hc
  rcases h.adds.origin c hc with ⟨c₀, hc₀, -, howner₀⟩ | ⟨hne, -⟩
  · have hmem : c₀ ∈ s.memory.owned d := Memory.mem_owned.2 ⟨hc₀, howner₀.trans howner⟩
    rw [hs] at hmem
    cases hmem
  · exact hne howner

theorem of_aside (h : Aside s t) : Meddling d s t := ⟨h.steady, h.memory ▸ .refl _⟩

end Meddling

/-- A job of a deployment asks, and others act before each of its requests is served. What a request
makes of the engine is held to `keeps`. -/
def among (d : String) (keeps : Memory → Memory → Prop) : Setting Daemon where
  allowed r s := ∀ t, Meddling d s t → keeps t.memory (Daemon.serve r t).2.memory
  answers r s a u := ∃ t, Meddling d s t ∧ Daemon.serve r t = (a, u)

/-- The containers of other deployments stay as they are. -/
def Engine.Memory.Spares (d : String) (m m' : Memory) : Prop := m'.foreign d = m.foreign d

theorem Engine.Memory.Spares.refl {d : String} (m : Memory) : m.Spares d m := rfl

/-! ## Where the job stands -/

/-- The identifiers `ids` are known to be of the deployment `d`, and all of its containers have one of
`left`. -/
structure Beset (d : String) (ids left : List String) (s : Daemon) : Prop where
  steady : s.Steady
  own : ∀ c ∈ s.memory.containers, c.id ∈ ids → c.owner? = some d
  old : ∀ id ∈ ids, ∀ n, s.memory.created < n → id ≠ Memory.numbered "c" n
  within : ∀ c ∈ s.memory.owned d, c.id ∈ left

namespace Beset

variable {d : String} {ids left : List String} {s t : Daemon}

theorem meddled (h : Beset d ids left s) (ht : Meddling d s t) : Beset d ids left t where
  steady := ht.steady h.steady
  own c hc hid := by
    rcases ht.adds.origin c hc with ⟨c₀, hc₀, hid₀, howner⟩ | ⟨-, n, hn, hnumbered⟩
    · exact howner ▸ h.own c₀ hc₀ (hid₀ ▸ hid)
    · exact absurd hnumbered (h.old c.id hid n hn)
  old id hid n hn := h.old id hid n (Nat.lt_of_le_of_lt ht.adds.created hn)
  within c hc := by
    obtain ⟨hc, howner⟩ := Memory.mem_owned.1 hc
    rcases ht.adds.origin c hc with ⟨c₀, hc₀, hid₀, howner₀⟩ | ⟨hne, -⟩
    · exact hid₀ ▸ h.within c₀ (Memory.mem_owned.2 ⟨hc₀, howner₀.trans howner⟩)
    · exact absurd howner hne

/-- No other deployment's container has one of the identifiers. -/
theorem ne_of_foreign (h : Beset d ids left s) {id : String} (hid : id ∈ ids) {c : Created}
    (hc : c ∈ s.memory.foreign d) : c.id ≠ id := fun heq =>
  (Memory.mem_foreign.1 hc).2 (h.own c (Memory.mem_foreign.1 hc).1 (heq ▸ hid))

theorem of_steady (h : s.Steady) : Beset d ((s.memory.owned d).map Created.id)
    ((s.memory.owned d).map Created.id) s where
  steady := h
  own c hc hid := by
    obtain ⟨c', hc', heq⟩ := List.mem_map.1 hid
    obtain ⟨hc', howner⟩ := Memory.mem_owned.1 hc'
    rwa [← h.numbered.eq_of_id_eq hc' hc heq]
  old id hid n hn := by
    obtain ⟨c, hc, rfl⟩ := List.mem_map.1 hid
    exact h.numbered.fresh c (Memory.mem_owned.1 hc).1 n hn
  within c hc := List.mem_map_of_mem hc

end Beset

/-! ## Requests -/

section

variable {d : String} {ids left left' : List String} {s : Daemon} {keeps : Memory → Memory → Prop}

/-- A call is served where others have acted before it, and ends as the engine in memory answers. -/
theorem call_among {c : Call} {good : c.Value → Daemon → Prop}
    {bad : Failure ContainerError → Daemon → Prop}
    (hserve : ∀ t, Meddling d s t → t.Steady ∧ keeps t.memory (t.memory.serve t.stamp.1 c).2 ∧
      ending good (fun e u => bad (.error (.engine e)) u) (t.memory.serve t.stamp.1 c).1 (t.called c)) :
    (Fleet.call c).Meets (among d keeps) good bad s := by
  refine Fleet.meets_call.2 ⟨fun t ht => ?_, fun reply u ⟨t, ht, hu⟩ => ?_⟩
  · obtain ⟨hsteady, hkeeps, -⟩ := hserve t ht
    have hmemory : (Daemon.serve (.engine c) t).2.memory = _ :=
      (Daemon.serve_engine hsteady.faultless).2.1
    rwa [hmemory]
  · obtain ⟨hsteady, -, hend⟩ := hserve t ht
    obtain ⟨hreply, -⟩ := Daemon.serve_engine (c := c) hsteady.faultless
    have hu' : t.called c = u := congrArg Prod.snd hu
    rw [hu] at hreply
    dsimp only at hreply
    subst hreply hu'
    cases hout : (t.memory.serve t.stamp.1 c).1 <;> rw [hout] at hend <;> exact hend

/-- The listing shows all containers of the deployment, and only those. -/
theorem list_among (hkeeps : ∀ m, keeps m m) (h : s.Steady) :
    (Fleet.listOwned d).Meets (among d keeps)
      (fun l u => ∃ t, Meddling d s t ∧ u.memory = t.memory ∧ l = (t.memory.owned d).map Created.container ∧
        Beset d (l.map Container.id) (l.map Container.id) u) (fun _ _ => False) s := by
  refine call_among fun t ht => ⟨ht.steady h, hkeeps _, t, ht, ?_, ?_, ?_⟩
  · exact (Daemon.serve_engine (ht.steady h).faultless).2.1
  · exact Memory.labelled_eq_owned _ _
  · rw [Memory.labelled_eq_owned, List.map_map]
    exact (Beset.of_steady (ht.steady h)).meddled (.called t nofun)

/-- A call about a container of the deployment, which may be gone. -/
theorem ending_among {c : Call} (h : Beset d ids left s) (hc : ∀ spec, c ≠ .create spec)
    (hserve : ∀ t : Daemon, Beset d ids left t →
      t.memory.Spares d (t.memory.serve t.stamp.1 c).2 ∧
      (∀ x ∈ (t.memory.serve t.stamp.1 c).2.owned d, x.id ∈ left → x.id ∈ left') ∧
      ∀ e, (t.memory.serve t.stamp.1 c).1 = .error e → e.isNotFound = true) :
    (Fleet.call c).Meets (among d (Memory.Spares d)) (fun _ => Beset d ids left')
      (fun f u => (∃ e, f = .error e ∧ e.isNotFound = true) ∧ Beset d ids left' u) s := by
  refine call_among fun t ht => ?_
  have hbeset := h.meddled ht
  obtain ⟨hspares, hleft, herror⟩ := hserve t hbeset
  have later : Beset d ids left' (t.called c) := by
    have called := hbeset.meddled (.called t fun spec heq => absurd heq (hc spec))
    refine { called with within := fun x hx => ?_ }
    have howned := hx
    rw [(Daemon.serve_engine hbeset.steady.faultless).2.1] at howned
    exact hleft x howned (called.within x hx)
  refine ⟨hbeset.steady, hspares, ?_⟩
  cases hout : (t.memory.serve t.stamp.1 c).1 with
  | ok a => exact later
  | error e => exact ⟨⟨.engine e, rfl, herror e hout⟩, later⟩

theorem ifPresent_among {a : Fleet.Action Unit} {post : Daemon → Prop}
    (h : a.Meets (among d keeps) (fun _ => post)
      (fun f u => (∃ e, f = .error e ∧ e.isNotFound = true) ∧ post u) s) :
    (Fleet.ifPresent a).Meets (among d keeps) (fun _ => post) (fun _ _ => False) s := by
  refine Fleet.meets_ifPresent.2 (h.mono (fun _ _ h => h) fun f u ⟨⟨e, he, hmissing⟩, hu⟩ => ?_)
  subst he
  simpa [hmissing] using hu

theorem stopIfRunning_among (h : Beset d ids left s) {c : Container} (hc : c.id ∈ ids) :
    (Fleet.stopIfRunning c).Meets (among d (Memory.Spares d)) (fun _ => Beset d ids left)
      (fun _ _ => False) s := by
  unfold Fleet.stopIfRunning
  split
  · refine ifPresent_among (ending_among h nofun fun t ht => ?_)
    change t.memory.Spares d (t.memory.stop c.id).2 ∧ (∀ x ∈ (t.memory.stop c.id).2.owned d, _) ∧
      ∀ e, (t.memory.stop c.id).1 = .error e → _
    unfold Memory.stop
    split
    · exact ⟨rfl, fun _ _ hx => hx, fun e he => by cases he; rfl⟩
    · exact ⟨Memory.foreign_update (f := fun c => { c with state := .exited }) (fun _ => rfl)
        fun x hx => ht.ne_of_foreign hc hx, fun _ _ hx => hx, nofun⟩
  · exact h

/-- After its removal a container is not left. -/
theorem removeIfPresent_among {c : Container} {rest : List String} (h : Beset d ids (c.id :: rest) s)
    (hc : c.id ∈ ids) :
    (Fleet.removeIfPresent c).Meets (among d (Memory.Spares d)) (fun _ => Beset d ids rest)
      (fun _ _ => False) s := by
  refine ifPresent_among (ending_among h nofun fun t ht => ?_)
  change t.memory.Spares d (t.memory.remove c.id true).2 ∧
    (∀ x ∈ (t.memory.remove c.id true).2.owned d, _) ∧
    ∀ e, (t.memory.remove c.id true).1 = .error e → _
  have other {x : Created} (hx : x.id ≠ c.id) (hmem : x.id ∈ c.id :: rest) : x.id ∈ rest :=
    (List.mem_cons.1 hmem).resolve_left hx
  unfold Memory.remove
  split
  · next hnone =>
    refine ⟨rfl, fun x hx => other fun heq => ?_, fun e he => by cases he; rfl⟩
    have hgone := List.find?_eq_none.1 hnone x (Memory.mem_owned.1 hx).1
    exact hgone (decide_eq_true heq)
  · rw [if_neg (by simp)]
    refine ⟨Memory.foreign_drop fun x hx => ht.ne_of_foreign hc hx, fun x hx => other ?_, nofun⟩
    have hdrop : x ∈ (t.memory.drop c.id).owned d := hx
    rw [Memory.owned_drop] at hdrop
    exact of_decide_eq_true (List.mem_filter.1 hdrop).2

/-- A step is announced, which others do not mind, and then taken. -/
theorem step_among {ν : Type} {job : Job} {workflow name : String} {x : StepAction ν Unit}
    {rest : List (Step Program ContainerError ν)} (before : Daemon → Prop)
    (next : ν → Daemon → Prop)
    {post : Except (StepError ContainerError) Unit × ν → Daemon → Prop} {v : ν}
    (hkeeps : ∀ m, keeps m m) (h : before s) (hbefore : ∀ t u, Meddling d t u → before t → before u)
    (hx : ∀ t, before t → x.Meets (among d keeps) (fun _ v' u => next v' u) (fun _ _ _ => False) v t)
    (hrest : ∀ v' u, next v' u →
      (Workflow.runSteps workflow job.announceStep rest v').Meets (among d keeps) post u) :
    (Workflow.runSteps workflow job.announceStep (Fleet.step name x :: rest) v).Meets
      (among d keeps) post s := by
  refine Workflow.meets_runSteps_cons.2 ⟨fun t _ => ?_, fun a u ⟨t, ht, hu⟩ => ?_⟩
  · rw [(aside_serve (by simp) t).memory]
    exact hkeeps _
  · have announced : Aside t (Daemon.serve (.announce job.scope ⟨job.id, .step, name⟩) t).2 :=
      aside_serve (by simp) t
    rw [hu] at announced
    have later : before u := hbefore t u (.of_aside announced) (hbefore s t ht h)
    exact Program.meets_done.2 ((hx u later).mono (fun _ => hrest) fun _ _ _ => False.elim)

end

/-! ## The attempt -/

namespace Teardown

variable {d : String} {config : Deployment} {ids : List String} {s : Daemon}

/-- The job works on the containers it has listed, of which none is removed yet. -/
def Snapshot (config : Deployment) (t : Teardown) (s : Daemon) : Prop :=
  t.config = config ∧ Beset config.name (t.current.map Container.id) (t.current.map Container.id) s

theorem Snapshot.meddled {t : Teardown} {u : Daemon} (h : Snapshot config t s)
    (hu : Meddling config.name s u) : Snapshot config t u := ⟨h.1, h.2.meddled hu⟩

theorem fetchCurrent_among {t : Teardown} (hconfig : t.config = config) (hs : s.Steady) :
    fetchCurrent.Meets (among config.name (Memory.Spares config.name))
      (fun _ t' u => Snapshot config t' u) (fun _ _ _ => False) t s := by
  subst hconfig
  refine StepAction.meets_bind.2 (StepAction.meets_get.2 (StepAction.meets_bind.2
    (StepAction.meets_during.2 ((list_among .refl hs).mono ?_ fun _ _ h => h))))
  rintro l u ⟨-, -, -, -, hbeset⟩
  exact ⟨rfl, hbeset⟩

theorem stopContainers_among {t : Teardown} (h : Snapshot config t s) :
    stopContainers.Meets (among config.name (Memory.Spares config.name))
      (fun _ t' u => Snapshot config t' u) (fun _ _ _ => False) t s := by
  refine StepAction.meets_bind.2 (StepAction.meets_get.2 ?_)
  refine (StepAction.meets_forM (fun left t' u => t' = t ∧ left ⊆ t.current ∧ Snapshot config t u) ?_
    ⟨rfl, List.Subset.refl _, h⟩).mono (fun _ _ _ ⟨heq, _, hu⟩ => heq ▸ hu) fun _ _ _ h => h
  rintro c left t' s ⟨rfl, hsub, hs⟩
  have hc : c.id ∈ t'.current.map Container.id := List.mem_map_of_mem (hsub List.mem_cons_self)
  refine StepAction.meets_during.2 ((stopIfRunning_among hs.2 hc).mono (fun _ u hu => ?_) fun _ _ h => h)
  exact ⟨rfl, fun x hx => hsub (List.mem_cons_of_mem c hx), hs.1, hu⟩

theorem removeContainers_among {t : Teardown} (h : Snapshot config t s) :
    removeContainers.Meets (among config.name (Memory.Spares config.name))
      (fun _ t' u => t'.config = config ∧ u.Steady ∧ u.memory.owned config.name = [])
      (fun _ _ _ => False) t s := by
  refine StepAction.meets_bind.2 (StepAction.meets_get.2 ?_)
  refine (StepAction.meets_forM (fun left t' u => t' = t ∧ left ⊆ t.current ∧
    Beset config.name (t.current.map Container.id) (left.map Container.id) u) ?_
    ⟨rfl, List.Subset.refl _, h.2⟩).mono ?_ fun _ _ _ h => h
  · rintro c left t' s ⟨rfl, hsub, hs⟩
    have hc : c.id ∈ t'.current.map Container.id := List.mem_map_of_mem (hsub List.mem_cons_self)
    refine StepAction.meets_during.2 ((removeIfPresent_among hs hc).mono (fun _ u hu => ?_) fun _ _ h => h)
    exact ⟨rfl, fun x hx => hsub (List.mem_cons_of_mem c hx), hu⟩
  · rintro _ t' u ⟨rfl, -, hu⟩
    exact ⟨h.1, hu.steady, List.eq_nil_iff_forall_not_mem.2 fun x hx => nomatch hu.within x hx⟩

theorem workflow_among {job : Job} {t : Teardown} (hconfig : t.config = config) (hs : s.Steady) :
    (workflow.runObserved job.announceStep t).Meets (among config.name (Memory.Spares config.name))
      (fun r u => r.1 = .ok () ∧ r.2.config = config ∧ u.Steady ∧ u.memory.owned config.name = []) s := by
  refine step_among Daemon.Steady (Snapshot config) .refl hs (fun _ _ h hs => h.steady hs)
    (fun t' ht' => fetchCurrent_among hconfig ht') fun t₁ s₁ h₁ => ?_
  refine step_among (Snapshot config t₁) (Snapshot config) .refl h₁ (fun _ _ h hs => hs.meddled h)
    (fun t' ht' => stopContainers_among ht') fun t₂ s₂ h₂ => ?_
  exact step_among (Snapshot config t₂)
    (fun t' u => t'.config = config ∧ u.Steady ∧ u.memory.owned config.name = []) .refl h₂
    (fun _ _ h hs => hs.meddled h) (fun t' ht' => removeContainers_among ht') fun t₃ s₃ h₃ => ⟨rfl, h₃⟩

/-! ## Another attempt -/

/-- The job has listed no containers. -/
def Emptied (config : Deployment) (t : Teardown) (s : Daemon) : Prop :=
  t.current = [] ∧ Snapshot config t s

/-- Where no container of the deployment is left the listing shows none. -/
theorem fetchCurrent_again {t : Teardown} (hconfig : t.config = config)
    (hs : s.Steady ∧ s.memory.owned config.name = []) :
    fetchCurrent.Meets (among config.name Eq) (fun _ t' u => Emptied config t' u)
      (fun _ _ _ => False) t s := by
  subst hconfig
  refine StepAction.meets_bind.2 (StepAction.meets_get.2 (StepAction.meets_bind.2
    (StepAction.meets_during.2 ((list_among (fun _ => rfl) hs.1).mono ?_ fun _ _ h => h))))
  rintro l u ⟨s', hs', -, hl, hbeset⟩
  rw [hs'.owned_eq_nil hs.2] at hl
  exact ⟨hl, rfl, hbeset⟩

/-- A step of the job does nothing if no containers were listed. -/
theorem forM_again {t : Teardown} {f : Container → StepAction Teardown PUnit}
    (h : Emptied config t s) :
    (do (← get).current.forM f : StepAction Teardown PUnit).Meets (among config.name Eq)
      (fun _ t' u => Emptied config t' u) (fun _ _ _ => False) t s := by
  refine StepAction.meets_bind.2 (StepAction.meets_get.2 ?_)
  rw [h.1]
  exact h

theorem workflow_again {job : Job} {t : Teardown} (hconfig : t.config = config)
    (hs : s.Steady ∧ s.memory.owned config.name = []) :
    (workflow.runObserved job.announceStep t).Meets (among config.name Eq)
      (fun r u => r.1 = .ok () ∧ r.2.config = config ∧ u.Steady ∧ u.memory.owned config.name = []) s := by
  have kept (t : Teardown) : ∀ s u, Meddling config.name s u → Emptied config t s → Emptied config t u :=
    fun _ _ h hs => ⟨hs.1, hs.2.meddled h⟩
  refine step_among (fun u => u.Steady ∧ u.memory.owned config.name = []) (Emptied config) (fun _ => rfl)
    hs (fun _ _ h hs => ⟨h.steady hs.1, h.owned_eq_nil hs.2⟩)
    (fun t' ht' => fetchCurrent_again hconfig ht') fun t₁ s₁ h₁ => ?_
  refine step_among (Emptied config t₁) (Emptied config) (fun _ => rfl) h₁ (kept t₁)
    (fun t' ht' => forM_again ht') fun t₂ s₂ h₂ => ?_
  refine step_among (Emptied config t₂) (Emptied config) (fun _ => rfl) h₂ (kept t₂)
    (fun t' ht' => forM_again ht') fun t₃ s₃ h₃ => ⟨rfl, h₃.2.1, h₃.2.2.steady, ?_⟩
  refine List.eq_nil_iff_forall_not_mem.2 fun x hx => ?_
  have hin := h₃.2.2.within x hx
  rw [h₃.1] at hin
  cases hin

end Teardown

namespace Executor

/-- What is shown of the workflow holds of the attempt, which leaves its job as it is but for the
containers listed. -/
theorem performWorkflow_meets {w : Setting Daemon} {post : Daemon → Prop} {f : Fleet} {job : Job}
    {config : Deployment} {current : List Container} {s : Daemon} (hwork : job.work = .delete config current)
    (h : (Teardown.workflow.runObserved job.announceStep ⟨config, current⟩).Meets w
      (fun r u => r.1 = .ok () ∧ r.2.config = config ∧ post u) s) :
    (performWorkflow f job).Meets w (fun r u => r.1 = .ok () ∧
      (∃ current', r.2 = { job with work := .delete config current' }) ∧ post u) s := by
  unfold performWorkflow Job.attempt
  rw [hwork]
  refine Program.meets_bind.2 (Program.meets_bind.2 (h.mono ?_))
  rintro ⟨outcome, config', current'⟩ u ⟨rfl, rfl, hu⟩
  exact ⟨rfl, ⟨current', rfl⟩, hu⟩

/-- Whatever others do to the containers meanwhile, as long as they add none under the label, an
attempt to tear a deployment down succeeds and leaves no container of it, and none of its requests
touches a container of another deployment. Another attempt succeeds too, and none of its requests
changes anything of the engine. -/
theorem tears_down (f : Fleet) {job : Job} {config : Deployment} {current : List Container}
    (hwork : job.work = .delete config current) {s : Daemon} (hs : s.Steady) :
    (performWorkflow f job).Meets (among config.name (Memory.Spares config.name))
      (fun r u => r.1 = .ok () ∧ u.memory.owned config.name = [] ∧
        (∃ current', r.2 = { job with work := .delete config current' }) ∧
        (performWorkflow f r.2).Meets (among config.name Eq)
          (fun r' u' => r'.1 = .ok () ∧ u'.memory.owned config.name = []) u) s := by
  refine (performWorkflow_meets hwork (Teardown.workflow_among rfl hs)).mono ?_
  rintro ⟨result, job'⟩ u ⟨hok, ⟨current', rfl⟩, hu⟩
  refine ⟨hok, hu.2, ⟨current', rfl⟩, ?_⟩
  exact (performWorkflow_meets rfl (Teardown.workflow_again rfl hu)).mono fun _ _ h => ⟨h.1, h.2.2.2⟩

/-! ## One teardown -/

/-- What a container is created from. -/
def specUnder (d name : String) : ContainerSpec :=
  Fleet.specFor {} (Deployment.new d "nginx") name []

/-- Two containers of one deployment run, and one of another is there. -/
def crowded : Daemon :=
  [Call.create (specUnder "api" "a"), .create (specUnder "api" "b"), .create (specUnder "web" "w"),
    .start "c1", .start "c2"].foldl Daemon.called {}

theorem steady_crowded : crowded.Steady := by
  have empty : ({} : Daemon).Steady := ⟨rfl, List.nodup_nil, fun _ => nofun⟩
  exact ((((empty.called _).called _).called _).called _).called _

/-- Somebody removes one container before the other is stopped, and starts that one again. -/
def meddle : Request → Daemon → Daemon
  | .engine (.stop "c1" _), s => s.called (.remove "c2" true)
  | .engine (.remove "c1" _), s => s.called (.start "c1")
  | _, s => s

theorem meddling_meddle (r : Request) (s : Daemon) : Meddling "api" s (meddle r s) := by
  unfold meddle
  split
  · exact .called s nofun
  · exact .called s nofun
  · exact .refl s

/-- The deployment is torn down all the same, though it is no longer saved, and the other one keeps its
container. -/
theorem tears_down_crowded :
    let job := Job.deleteOrphaned ⟨0⟩ .epoch "api" 1
    let r := (performWorkflow {} job).run (fun r s => Daemon.serve r (meddle r s)) crowded
    job.work = .delete (Deployment.new "api" "") [] ∧ crowded.Steady ∧ r.1.1 = .ok () ∧
      r.2.memory.owned "api" = [] ∧ r.2.memory.containers.map Created.id = ["c3"] := by
  intro job r
  have hserve : ∀ r s, (among "api" (Memory.Spares "api")).answers r s
      (Daemon.serve r (meddle r s)).1 (Daemon.serve r (meddle r s)).2 :=
    fun r s => ⟨meddle r s, meddling_meddle r s, rfl⟩
  have served := (tears_down {} (rfl : job.work = .delete (Deployment.new "api" "") [])
    steady_crowded).run hserve
  exact ⟨rfl, steady_crowded, served.1, served.2.1, by decide +kernel⟩

end Executor

end Orchestrator
