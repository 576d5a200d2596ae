import Orchestrator.Proofs.Daemon.Shared

/-!
# The requests of a job, one by one

`At d f terms since net L s` is what a job of `d` knows of the daemon while it runs beside others: of
the engine's containers it sees only those of its deployment, and these are `L`. Others keep it
(`At.others`), and there is one rule for each request a job makes, which says how `L` changes.

The engine in memory refuses few calls: pulls and creations can fail, and under `Terms` not even
these. A container of `L` is always found (`inspect_at`, `start_at`, `stop_at`, `remove_at`).
-/
namespace Orchestrator

open Engine

/-- The container in a network. -/
def Container.joined (network : String) (c : Container) : Container :=
  { c with networkId := some network }

/-- The container in a state. -/
def Container.inState (state : ContainerState) (c : Container) : Container := { c with state := state }

/-- The container with its appearance changed. -/
def Engine.Created.map (g : Container → Container) (c : Created) : Created :=
  { c with container := g c.container }

@[simp] theorem Engine.Created.id_inState (c : Created) (state : ContainerState) :
    (c.map (Container.inState state)).id = c.id := rfl

theorem SortedMap.mem_values_of_find? {κ ν : Type} [Ord κ] {m : SortedMap κ ν} {k : κ} {v : ν}
    (h : m.find? k = some v) : v ∈ m.values := by
  have lookup : ∀ l : List (κ × ν), SortedMap.lookup k l = some v → v ∈ l.map Prod.snd := by
    intro l hl
    induction l with
    | nil => cases hl
    | cons e rest ih =>
      unfold SortedMap.lookup at hl
      split at hl
      · exact List.mem_cons.2 (.inl (Option.some.inj hl).symm)
      · exact List.mem_cons_of_mem _ (ih hl)
  exact lookup m.entries h

/-- What a job of `d` knows: its containers are `L`, at least `since` containers were ever created,
and the network to be joined is `net`, if it is known. -/
structure At (d : String) (f : Fleet) (terms : Option Terms) (since : Nat) (net : Option Network)
    (L : List Created) (s : Daemon) : Prop where
  steady : s.Steady
  owned : s.memory.owned d = L
  later : since ≤ s.memory.created
  fleet : s.fleet = f
  hold : ∀ k ∈ terms, k.Hold s
  network : ∀ n ∈ net, s.memory.networks.find? f.network = some n

section

variable {d : String} {f : Fleet} {terms : Option Terms} {since : Nat} {net : Option Network}
  {L : List Created} {s t : Daemon}

theorem At.others (h : At d f terms since net L s) (hst : Others d terms s t) :
    At d f terms since net L t where
  steady := hst.steady h.steady
  owned := hst.owned.trans h.owned
  later := Nat.le_trans h.later hst.created
  fleet := hst.fleet.trans h.fleet
  hold k hk := (hst.terms k hk (h.hold k hk)).1
  network n hn := hst.networks _ n (h.network n hn)

theorem At.mem (h : At d f terms since net L s) {c : Created} (hc : c ∈ L) :
    c ∈ s.memory.containers := by
  rw [← h.owned] at hc
  exact (Memory.mem_owned.1 hc).1

theorem At.nodup (h : At d f terms since net L s) : (L.map Created.id).Nodup := by
  rw [← h.owned]
  exact h.steady.numbered.nodup.sublist (List.filter_sublist.map _)

theorem At.find?_eq (h : At d f terms since net L s) {c : Created} (hc : c ∈ L) :
    s.memory.find? c.id = some c :=
  h.steady.numbered.find?_eq (h.mem hc)

theorem At.ne_of_foreign (h : At d f terms since net L s) {c : Created} (hc : c ∈ L) :
    ∀ c' ∈ s.memory.foreign d, c'.id ≠ c.id := fun c' hc' => by
  rw [← h.owned] at hc
  exact h.steady.numbered.ne_of_foreign hc hc'

/-- A call that keeps what others have, and the terms, is a job's own, and leaves it with what the
engine then has of its deployment. -/
theorem At.called {c : Call} {net' : Option Network} {L' : List Created}
    (h : At d f terms since net L s)
    (hforeign : (s.memory.serve s.stamp.1 c).2.foreign d = s.memory.foreign d)
    (howned : (s.memory.serve s.stamp.1 c).2.owned d = L')
    (hnet : ∀ n ∈ net', (s.memory.serve s.stamp.1 c).2.networks.find? f.network = some n)
    (hterms : ∀ k ∈ terms, k.Hold s →
      k.Hold (s.called c) ∧ (s.memory.serve s.stamp.1 c).2.networks = s.memory.networks) :
    Own d terms s (s.called c) ∧ At d f terms since net' L' (s.called c) := by
  have own := own_called h.steady hforeign hterms
  obtain ⟨-, hmemory, -⟩ := Daemon.serve_engine (c := c) h.steady.faultless
  refine ⟨own, h.steady.called c, ?_, Nat.le_trans h.later own.created, own.fleet.trans h.fleet,
    fun k hk => (own.terms k hk (h.hold k hk)).1.1, ?_⟩
  · rw [hmemory, howned]
  · rw [hmemory]
    exact hnet

theorem At.called_mild {c : Call} {L' : List Created} (h : At d f terms since net L s)
    (hforeign : (s.memory.serve s.stamp.1 c).2.foreign d = s.memory.foreign d)
    (howned : (s.memory.serve s.stamp.1 c).2.owned d = L')
    (hm : Mild s.memory (s.memory.serve s.stamp.1 c).2) :
    Own d terms s (s.called c) ∧ At d f terms since net L' (s.called c) :=
  h.called hforeign howned (fun n hn => by rw [hm.networks]; exact h.network n hn)
    fun _ _ hold => ⟨hold.called h.steady hm, hm.networks⟩

/-- Where no terms hold, a call may change how the engine answers later ones. -/
theorem At.called_unsettled {c : Call} (h : At d f terms since net L s) (hterms : terms = none)
    (hcontainers : (s.memory.serve s.stamp.1 c).2.containers = s.memory.containers)
    (hnetworks : (s.memory.serve s.stamp.1 c).2.networks = s.memory.networks) :
    Own d terms s (s.called c) ∧ At d f terms since net L (s.called c) := by
  refine h.called ?_ ?_ ?_ ?_
  · rw [Memory.foreign, hcontainers]
    rfl
  · rw [← h.owned, Memory.owned, hcontainers]
    rfl
  · rw [hnetworks]
    exact h.network
  · simp [hterms]

/-- A call is served where others have acted before it, and ends as the engine in memory answers. -/
theorem call_at {c : Call} {good : c.Value → Daemon → Prop}
    {bad : Failure ContainerError → Daemon → Prop} (h : At d f terms since net L s)
    (hserve : ∀ t, Others d terms s t → At d f terms since net L t →
      Own d terms t (t.called c) ∧ ending good (fun e u => bad (.error (.engine e)) u)
        (t.memory.serve t.stamp.1 c).1 (t.called c)) :
    (Fleet.call c).Meets (shared d terms) good bad s := by
  refine Fleet.meets_call.2 ⟨fun t ht => (hserve t ht (h.others ht)).1, fun reply u ⟨t, ht, hu⟩ => ?_⟩
  obtain ⟨hreply, -⟩ := Daemon.serve_engine (c := c) (h.others ht).steady.faultless
  have hend := (hserve t ht (h.others ht)).2
  have hu' : t.called c = u := congrArg Prod.snd hu
  rw [hu] at hreply
  dsimp only at hreply
  subst hreply hu'
  cases hout : (t.memory.serve t.stamp.1 c).1 with
  | ok a =>
    rw [hout] at hend
    exact hend
  | error e =>
    rw [hout] at hend
    exact hend

/-- A call that the engine in memory answers. -/
theorem answered_at {c : Call} {good : c.Value → Daemon → Prop} (h : At d f terms since net L s)
    (hserve : ∀ t, At d f terms since net L t → Own d terms t (t.called c) ∧
      ∃ a, (t.memory.serve t.stamp.1 c).1 = .ok a ∧ good a (t.called c)) :
    (Fleet.call c).Meets (shared d terms) good (fun _ _ => False) s := by
  refine call_at h fun t _ ht => ?_
  obtain ⟨own, a, ha, hgood⟩ := hserve t ht
  rw [ha]
  exact ⟨own, hgood⟩

/-- A request that does not reach the engine. -/
theorem ask_at {r : Request} {good : r.Answer → Daemon → Prop}
    {bad : Failure ContainerError → Daemon → Prop} (hr : ∀ c, r ≠ .engine c)
    (h : At d f terms since net L s)
    (hserve : ∀ t, Others d terms s t → At d f terms since net L t →
      At d f terms since net L (Daemon.serve r t).2 →
        good (Daemon.serve r t).1 (Daemon.serve r t).2) :
    (Task.ask r).Meets (shared d terms) good bad s := by
  refine Task.meets_ask.2 ⟨fun t _ => (aside_serve hr t).own, fun a u ⟨t, ht, hu⟩ => ?_⟩
  have later := hserve t ht (h.others ht) ((h.others ht).others (aside_serve hr t).others)
  rw [hu] at later
  exact later

/-! ## Looking -/

theorem list_at (h : At d f terms since net L s) :
    (Fleet.listOwned d).Meets (shared d terms)
      (fun l u => l = L.map Created.container ∧ At d f terms since net L u) (fun _ _ => False) s := by
  refine answered_at h fun t ht => ?_
  have later := ht.called_mild (c := .list Container.ownerLabel d) rfl ht.owned
    (mild_of_containers_eq rfl rfl rfl rfl rfl)
  exact ⟨later.1, _, rfl, by rw [Memory.labelled_eq_owned, ht.owned], later.2⟩

theorem inspect_at (h : At d f terms since net L s) {c : Created} (hc : c ∈ L) :
    (Fleet.call (.inspect c.id)).Meets (shared d terms)
      (fun x u => x = c.container ∧ At d f terms since net L u) (fun _ _ => False) s := by
  refine answered_at h fun t ht => ?_
  have later := ht.called_mild (c := .inspect c.id) rfl ht.owned
    (mild_of_containers_eq rfl rfl rfl rfl rfl)
  refine ⟨later.1, c.container, ?_, rfl, later.2⟩
  simp [Memory.serve, Memory.inspect, ht.find?_eq hc]

/-! ## Changing a container -/

theorem map_change {pre post : List Created} {c : Created} {g : Container → Container}
    (h : ((pre ++ c :: post).map Created.id).Nodup) :
    (pre ++ c :: post).map (Created.change c.id g) = pre ++ c.map g :: post := by
  rw [List.map_append, List.map_cons, List.nodup_middle, List.nodup_cons] at h
  have other : ∀ l ⊆ pre ++ post, l.map (Created.change c.id g) = l := fun l hl =>
    (List.map_congr_left fun x hx => Created.change_of_ne fun hid =>
      h.1 (by rw [← List.map_append, ← hid]; exact List.mem_map_of_mem (hl hx))).trans (List.map_id _)
  rw [List.map_append, List.map_cons, other pre (by simp), other post (by simp)]
  simp [Created.change, Created.map]

theorem filter_id_ne {pre post : List Created} {c : Created}
    (h : ((pre ++ c :: post).map Created.id).Nodup) :
    (pre ++ c :: post).filter (fun x => x.id ≠ c.id) = pre ++ post := by
  rw [List.map_append, List.map_cons, List.nodup_middle, List.nodup_cons, ← List.map_append] at h
  have other : (pre ++ post).filter (fun x => x.id ≠ c.id) = pre ++ post := by
    rw [List.filter_eq_self]
    intro x hx
    refine decide_eq_true fun hid => h.1 ?_
    rw [← hid]
    exact List.mem_map_of_mem hx
  rw [List.filter_append, List.filter_cons_of_neg (by simp), ← List.filter_append, other]

/-- A call that changes a container, but neither its identifier nor its labels. -/
theorem change_at {c : Call} {x : Created} {pre post : List Created} {g : Container → Container}
    (h : At d f terms since net (pre ++ x :: post) s)
    (hmemory : (s.memory.serve s.stamp.1 c).2 = s.memory.update x.id g)
    (hg : ∀ y, (g y).labels = y.labels) :
    Own d terms s (s.called c) ∧ At d f terms since net (pre ++ x.map g :: post) (s.called c) := by
  refine h.called_mild ?_ ?_ ?_ <;> rw [hmemory]
  · exact Memory.foreign_update hg (h.ne_of_foreign (by simp))
  · rw [Memory.owned_update hg, h.owned, map_change h.nodup]
  · exact mild_update hg

theorem connect_at {c : Created} (pre : List Created) {post : List Created} {n : Network}
    (h : At d f terms since (some n) (pre ++ c :: post) s) :
    (Fleet.call (.connect n.id c.id)).Meets (shared d terms)
      (fun _ u => At d f terms since (some n) (pre ++ c.map (Container.joined n.id) :: post) u)
      (fun _ _ => False) s := by
  refine answered_at h fun t ht => ?_
  have known : (t.memory.networks.values.any fun n' => n'.id = n.id) = true :=
    List.any_eq_true.2 ⟨n, SortedMap.mem_values_of_find? (ht.network n rfl), by simp⟩
  have served : t.memory.serve t.stamp.1 (.connect n.id c.id)
      = (.ok (), t.memory.update c.id (Container.joined n.id)) := by
    change t.memory.connect n.id c.id = _
    unfold Memory.connect
    rw [if_pos known, ht.find?_eq (by simp)]
    rfl
  have later := change_at (c := .connect n.id c.id) ht (congrArg Prod.snd served) fun _ => rfl
  exact ⟨later.1, (), congrArg Prod.fst served, later.2⟩

theorem start_at {c : Created} (pre : List Created) {post : List Created}
    (h : At d f terms since net (pre ++ c :: post) s) :
    (Fleet.call (.start c.id)).Meets (shared d terms)
      (fun _ u => ∃ state, At d f terms since net (pre ++ c.map (Container.inState state) :: post) u ∧
        ∀ k ∈ terms, state = .running)
      (fun _ _ => False) s := by
  refine answered_at h fun t ht => ?_
  have served : t.memory.serve t.stamp.1 (.start c.id)
      = (.ok (), t.memory.update c.id (Container.inState t.memory.startState)) := by
    change t.memory.start c.id = _
    unfold Memory.start
    rw [ht.find?_eq (by simp)]
    rfl
  have later := change_at (c := .start c.id) ht (congrArg Prod.snd served) fun _ => rfl
  exact ⟨later.1, (), congrArg Prod.fst served, t.memory.startState, later.2,
    fun k hk => (ht.hold k hk).starts⟩

theorem stop_at {c : Created} (pre : List Created) {post : List Created}
    (h : At d f terms since net (pre ++ c :: post) s) :
    (Fleet.stop c.id).Meets (shared d terms)
      (fun _ u => At d f terms since net (pre ++ c.map (Container.inState .exited) :: post) u)
      (fun _ _ => False) s := by
  refine answered_at h fun t ht => ?_
  have served : t.memory.serve t.stamp.1 (.stop c.id Fleet.stopGrace)
      = (.ok (), t.memory.update c.id (Container.inState .exited)) := by
    change t.memory.stop c.id = _
    unfold Memory.stop
    rw [ht.find?_eq (by simp)]
    rfl
  have later := change_at (c := .stop c.id Fleet.stopGrace) ht (congrArg Prod.snd served) fun _ => rfl
  exact ⟨later.1, (), congrArg Prod.fst served, later.2⟩

theorem remove_at {c : Created} (pre : List Created) {post : List Created}
    (h : At d f terms since net (pre ++ c :: post) s) :
    (Fleet.call (.remove c.id true)).Meets (shared d terms)
      (fun _ u => At d f terms since net (pre ++ post) u) (fun _ _ => False) s := by
  refine answered_at h fun t ht => ?_
  have served : t.memory.serve t.stamp.1 (.remove c.id true) = (.ok (), t.memory.drop c.id) := by
    change t.memory.remove c.id true = _
    unfold Memory.remove
    rw [ht.find?_eq (by simp)]
    simp [Memory.drop]
  have later : Own d terms t (t.called (.remove c.id true)) ∧
      At d f terms since net (pre ++ post) (t.called (.remove c.id true)) := by
    refine ht.called_mild ?_ ?_ ?_ <;> rw [served]
    · exact Memory.foreign_drop (ht.ne_of_foreign (by simp))
    · rw [Memory.owned_drop, ht.owned, filter_id_ne ht.nodup]
    · exact mild_drop
  exact ⟨later.1, (), congrArg Prod.fst served, later.2⟩

/-! ## Ending a container -/

/-- What never fails is done where it does not matter whether the container exists. -/
theorem ifPresent_at {a : Fleet.Action Unit} {good : Unit → Daemon → Prop}
    (h : a.Meets (shared d terms) good (fun _ _ => False) s) :
    (Fleet.ifPresent a).Meets (shared d terms) good (fun _ _ => False) s :=
  Fleet.meets_ifPresent.2 (h.mono (fun _ _ h => h) fun _ _ h => h.elim)

theorem stopIfRunning_at {x : Container} {c : Created} (pre : List Created) {post : List Created}
    (hid : x.id = c.id) (h : At d f terms since net (pre ++ c :: post) s) :
    (Fleet.stopIfRunning x).Meets (shared d terms)
      (fun _ u => ∃ c', c'.id = c.id ∧ At d f terms since net (pre ++ c' :: post) u)
      (fun _ _ => False) s := by
  unfold Fleet.stopIfRunning
  split
  · rw [hid]
    exact ifPresent_at ((stop_at pre h).mono (fun _ _ hu => ⟨c.map (Container.inState .exited), rfl, hu⟩)
      fun _ _ h => h)
  · exact ⟨c, rfl, h⟩

theorem removeIfPresent_at {x : Container} {c : Created} (pre : List Created) {post : List Created}
    (hid : x.id = c.id) (h : At d f terms since net (pre ++ c :: post) s) :
    (Fleet.removeIfPresent x).Meets (shared d terms)
      (fun _ u => At d f terms since net (pre ++ post) u) (fun _ _ => False) s := by
  unfold Fleet.removeIfPresent
  rw [hid]
  exact ifPresent_at (remove_at pre h)

/-! ## Steps of workflows -/

/-- A step is announced, which others do not mind, and then taken. -/
theorem step_at {ν : Type} {job : Job} {workflow name : String} {x : StepAction ν Unit}
    {rest : List (Step Program ContainerError ν)} (next bad : ν → Daemon → Prop)
    {post : Except (StepError ContainerError) Unit × ν → Daemon → Prop} {v : ν}
    (h : At d f terms since net L s)
    (hx : ∀ t, At d f terms since net L t →
      x.Meets (shared d terms) (fun _ v' u => next v' u) (fun _ v' u => bad v' u) v t)
    (hrest : ∀ v' u, next v' u →
      (Workflow.runSteps workflow job.announceStep rest v').Meets (shared d terms) post u)
    (hbad : ∀ e v' u, bad v' u → post (.error e, v') u) :
    (Workflow.runSteps workflow job.announceStep (Fleet.step name x :: rest) v).Meets
      (shared d terms) post s := by
  rw [Workflow.meets_runSteps_cons]
  refine ⟨fun t _ => (aside_serve (by simp) t).own, fun a u ⟨t, ht, hu⟩ => ?_⟩
  have later : At d f terms since net L u := by
    have := (h.others ht).others (aside_serve (r := .announce job.scope ⟨job.id, .step, name⟩)
      (by simp) t).others
    rwa [hu] at this
  exact (hx u later).mono (fun _ => hrest) fun e v' u' => hbad _ v' u'

end

end Orchestrator
