import Orchestrator.Daemon.Basic
import Orchestrator.Proofs.Program.Trace

/-!
# Old containers outlast the checks of the new ones

One attempt of a rollout, against an engine that may answer every call in any way, fail it or
panic. `Proven d t` is what the trace `t` of the attempt must show before any container is ended:
exactly `scale` creations, then the start of every container they made, then a look at each of them
that found it running.

Main statement: `endings_follow_proof`. The argument is one condition on the trace for each step of
the workflow (`Fetched`, `Creating`, `Starting`, `Checking`), each carried to the next by the rule for
its loop; endings are asked for in the last step only.
-/
namespace Orchestrator.Rollout

open Trace

/-- The trace shows that `scale` containers were created, that each was started after that, and that
each was then found running. `made` pairs what a creation answered with the container that was then
inspected, by whose identifier it is started and checked. -/
def Proven (d : Deployment) (t : Trace) : Prop :=
  ∃ (made : List (String × Container)) (creating starting checking rest : Trace),
    t = creating ++ starting ++ checking ++ rest ∧
    made.length = d.scale.toNat ∧
    created t = made.map Prod.fst ∧ created creating = made.map Prod.fst ∧
    (∀ m ∈ made, m ∈ inspected creating) ∧
    started starting = made.map (fun m => m.2.id) ∧
    ∀ m ∈ made, ∃ c, (m.2.id, c) ∈ inspected checking ∧ c.state = .running

/-- A container is ended only when the new ones are proven, and only if it was listed. -/
def Cautious (d : Deployment) (r : Request) (t : Trace) : Prop :=
  ∀ id, r.ends? = some id → Proven d t ∧ ∃ l ∈ listings t, id ∈ l.map Container.id

/-- The setting of any engine, in which only cautious requests are allowed. -/
abbrev anyEngine (d : Deployment) : Setting Trace := .recording (Cautious d)

theorem cautious_of_ends?_eq_none {d : Deployment} {r : Request} {t : Trace}
    (h : r.ends? = none) : Cautious d r t := fun id hid => by simp [h] at hid

/-! ## Traces that go on quietly -/

/-- One trace goes on from another without ending or creating a container. -/
def Quiet (t t' : Trace) : Prop := ∃ more, t' = t ++ more ∧ EndsNothing more ∧ created more = []

theorem Quiet.refl (t : Trace) : Quiet t t := ⟨[], by simp, by simp [EndsNothing], rfl⟩

theorem Quiet.trans {t t' t'' : Trace} (h : Quiet t t') (h' : Quiet t' t'') : Quiet t t'' := by
  obtain ⟨more, rfl, he, hc⟩ := h
  obtain ⟨more', rfl, he', hc'⟩ := h'
  exact ⟨more ++ more', by simp, he.append he', by simp [hc, hc']⟩

theorem quiet_snoc {t : Trace} {x : Exchange} (he : x.request.ends? = none)
    (hc : x.created? = none) : Quiet t (t ++ [x]) :=
  ⟨[x], rfl, by simpa [EndsNothing] using he, by simp [created, hc]⟩

theorem Quiet.endsNothing {t t' : Trace} (h : Quiet t t') (ht : EndsNothing t) :
    EndsNothing t' := by
  obtain ⟨more, rfl, he, -⟩ := h
  exact ht.append he

theorem resolve_quiet (d : Deployment) (t : Trace) (name : String)
    (entries : List (String × String)) :
    (Fleet.resolve name entries).Meets (anyEngine d) (fun _ t' => Quiet t t')
      (fun _ t' => Quiet t t') t := by
  induction entries generalizing t with
  | nil => exact .refl t
  | cons entry rest ih =>
    have step : ∀ a, Quiet t (t ++ [⟨.secret name entry.1, a⟩]) := fun a => quiet_snoc rfl rfl
    unfold Fleet.resolve
    rw [Task.meets_bind, Task.meets_ask]
    refine ⟨cautious_of_ends?_eq_none rfl, fun a t' ht' => ?_⟩
    subst ht'
    have later := (ih (t ++ [⟨.secret name entry.1, a⟩])).mono
      (fun _ _ h => (step a).trans h) (fun _ _ h => (step a).trans h)
    match a with
    | .ok secret =>
      rw [Task.meets_bind]
      exact later
    | .error (.unknownSecret ..) => exact later
    | .error (.invalid _) => exact step _
    | .error (.unknownDeployment _) => exact step _
    | .error .undecodable => exact step _

theorem spec_quiet (f : Fleet) (d : Deployment) (t : Trace) :
    (f.spec d).Meets (anyEngine d) (fun _ t' => Quiet t t') (fun _ t' => Quiet t t') t := by
  unfold Fleet.spec Fleet.resolveEnv
  rw [bind_assoc, Task.meets_bind]
  refine (resolve_quiet d t _ _).mono (fun resolved t' h => ?_) fun _ _ h => h
  rw [pure_bind, Task.meets_bind, Task.meets_ask]
  refine ⟨cautious_of_ends?_eq_none rfl, fun a t'' ht'' => ?_⟩
  subst ht''
  exact h.trans (quiet_snoc rfl rfl)

theorem call_quiet {d : Deployment} {t : Trace} {c : Engine.Call}
    (he : (Request.engine c).ends? = none)
    (hc : ∀ a : c.Reply, (⟨.engine c, a⟩ : Exchange).created? = none) :
    (Fleet.call c).Meets (anyEngine d) (fun a t' => t' = t ++ [⟨.engine c, .ok a⟩] ∧ Quiet t t')
      (fun _ t' => Quiet t t') t := by
  rw [Fleet.meets_call]
  refine ⟨cautious_of_ends?_eq_none he, fun reply t' ht' => ?_⟩
  subst ht'
  cases reply with
  | ok a => exact ⟨rfl, quiet_snoc he (hc _)⟩
  | error e => exact quiet_snoc he (hc _)

theorem ensureNetwork_quiet (f : Fleet) (d : Deployment) (t : Trace) :
    f.ensureNetwork.Meets (anyEngine d) (fun _ t' => Quiet t t') (fun _ t' => Quiet t t') t := by
  unfold Fleet.ensureNetwork
  rw [Task.meets_bind]
  refine (call_quiet rfl fun _ => rfl).mono (fun found t' h => ?_) fun _ _ h => h
  cases found with
  | some network => exact h.2
  | none =>
    exact (call_quiet rfl fun _ => rfl).mono (fun _ _ h' => h.2.trans h'.2) fun _ _ => h.2.trans

/-! ## Creating -/

/-- The trace creates the containers of `made`, and inspects each after it is created. -/
structure Made (d : Deployment) (made : List (String × Container)) (t : Trace) : Prop where
  count : made.length = d.scale.toNat
  created : created t = made.map Prod.fst
  seen : ∀ m ∈ made, m ∈ inspected t

/-- What the steps work on once the containers to be replaced are known. -/
structure Fetched (d : Deployment) (r : Rollout) (t : Trace) : Prop where
  config : r.config = d
  listed : r.current ∈ listings t
  spares : EndsNothing t

theorem Fetched.append {d : Deployment} {r : Rollout} {t more : Trace} (h : Fetched d r t)
    (he : EndsNothing more) : Fetched d r (t ++ more) :=
  ⟨h.config, by simp [h.listed], h.spares.append he⟩

theorem create_made (f : Fleet) (d : Deployment) (t : Trace) :
    (f.create d).Meets (anyEngine d)
      (fun c t' => ∃ id more, t' = t ++ more ∧ EndsNothing more ∧ Trace.created more = [id] ∧
        (id, c) ∈ inspected more)
      (fun _ t' => EndsNothing t → EndsNothing t') t := by
  unfold Fleet.create
  rw [Task.meets_bind]
  refine (ensureNetwork_quiet f d t).mono (fun network t₁ h₁ => ?_) fun _ _ => Quiet.endsNothing
  rw [Task.meets_bind]
  refine (spec_quiet f d t₁).mono (fun spec t₂ h₂ => ?_) fun _ _ h => (h₁.trans h).endsNothing
  obtain ⟨more, rfl, he, hc⟩ := h₁.trans h₂
  rw [Task.meets_bind, Fleet.meets_call]
  refine ⟨cautious_of_ends?_eq_none rfl, fun reply t₃ h₃ => ?_⟩
  subst h₃
  have hcreate : EndsNothing [(⟨.engine (.create spec), reply⟩ : Exchange)] := by
    simp [EndsNothing, Request.ends?]
  cases reply with
  | error e => exact fun ht => (ht.append he).append hcreate
  | ok id =>
    rw [ending_ok, Task.meets_bind]
    refine (call_quiet rfl fun _ => rfl).mono (fun _ t₄ h₄ => ?_)
      fun _ _ h ht => h.endsNothing ((ht.append he).append hcreate)
    obtain ⟨rfl, -⟩ := h₄
    refine (call_quiet rfl fun _ => rfl).mono (fun c t₅ h₅ => ?_)
      fun _ _ h ht => h.endsNothing (((ht.append he).append hcreate).append ?_)
    · obtain ⟨rfl, -⟩ := h₅
      refine ⟨id, more ++ [⟨.engine (.create spec), .ok id⟩, ⟨.engine (.connect network.id id), .ok ()⟩,
        ⟨.engine (.inspect id), .ok c⟩], by simp, he.append ?_, ?_, ?_⟩
      · simp [EndsNothing, Request.ends?]
      · rw [created_append, hc]
        rfl
      · rw [inspected_append]
        exact List.mem_append_right _ (List.mem_singleton.2 rfl)
    · simp [EndsNothing, Request.ends?]

/-- The creation of `left` more containers is still to come. -/
def Creating (d : Deployment) (left : Nat) (r : Rollout) (t : Trace) : Prop :=
  Fetched d r t ∧ ∃ made : List (String × Container), made.length + left = d.scale.toNat ∧
    r.new = made.map Prod.snd ∧ Trace.created t = made.map Prod.fst ∧ ∀ m ∈ made, m ∈ inspected t

theorem createMany_meets (f : Fleet) (d : Deployment) (left : Nat) (r : Rollout) (t : Trace)
    (h : Creating d left r t) :
    (createMany f left).Meets (anyEngine d) (fun _ r' t' => Creating d 0 r' t')
      (fun _ _ t' => EndsNothing t') r t := by
  induction left generalizing r t with
  | zero => exact h
  | succ left ih =>
    obtain ⟨hf, made, hlen, hnew, hcreated, hseen⟩ := h
    unfold createMany
    rw [StepAction.meets_bind, StepAction.meets_get, StepAction.meets_bind,
      StepAction.meets_during, hf.config]
    refine (create_made f d t).mono (fun c t' hc => ?_) fun _ _ h => h hf.spares
    obtain ⟨id, more, rfl, he, hid, hin⟩ := hc
    rw [StepAction.meets_bind, StepAction.meets_modify]
    refine ih _ _ ⟨⟨hf.config, by simp [hf.listed], hf.spares.append he⟩, made ++ [(id, c)], ?_, ?_,
      ?_, ?_⟩
    · simp; omega
    · simp [hnew]
    · simp [hcreated, hid]
    · intro m hm
      rcases List.mem_append.1 hm with hm | hm
      · simp [hseen m hm]
      · simp_all

/-! ## Starting -/

/-- All containers are created, and those of `left` are still to be started. -/
def Starting (d : Deployment) (made : List (String × Container)) (left : List Container)
    (r : Rollout) (t : Trace) : Prop :=
  Fetched d r t ∧ r.new = made.map Prod.snd ∧ ∃ creating starting, t = creating ++ starting ∧
    Made d made creating ∧ Trace.created starting = [] ∧
    started starting ++ left.map Container.id = made.map fun m => m.2.id

theorem startContainers_meets (d : Deployment) (r : Rollout) (t : Trace) (h : Creating d 0 r t) :
    startContainers.Meets (anyEngine d) (fun _ r' t' => ∃ made, Starting d made [] r' t')
      (fun _ _ t' => EndsNothing t') r t := by
  obtain ⟨hf, made, hlen, hnew, hcreated, hseen⟩ := h
  unfold startContainers
  rw [StepAction.meets_bind, StepAction.meets_get]
  refine (StepAction.meets_forM (fun left r t => Starting d made left r t) ?_ ?_).mono
    (fun _ _ _ h => ⟨made, h⟩) fun _ _ _ h => h
  · rintro c left r t ⟨hf, hnew, creating, starting, rfl, hmade, hquiet, hstarted⟩
    refine StepAction.meets_during.2 (Fleet.meets_call.2
      ⟨cautious_of_ends?_eq_none rfl, fun reply t' ht' => ?_⟩)
    subst ht'
    have he : EndsNothing [(⟨.engine (.start c.id), reply⟩ : Exchange)] := by
      simp [EndsNothing, Request.ends?]
    cases reply with
    | error e => exact hf.spares.append he
    | ok u =>
      refine ⟨hf.append he, hnew, creating, starting ++ [_], List.append_assoc .., hmade, ?_, ?_⟩
      · rw [created_append, hquiet]
        rfl
      · rw [← hstarted, started_append, List.append_assoc]
        rfl
  · exact ⟨hf, hnew, t, [], by simp, ⟨hlen, hcreated, hseen⟩, rfl, by simp [started, hnew]⟩

/-! ## Checking -/

/-- All containers are started, and those that were not yet seen running are in `left`. -/
def Checking (d : Deployment) (made : List (String × Container)) (left : List Container)
    (r : Rollout) (t : Trace) : Prop :=
  Fetched d r t ∧ ∃ creating starting checking, t = creating ++ starting ++ checking ∧
    Made d made creating ∧ Trace.created starting = [] ∧
    started starting = made.map (fun m => m.2.id) ∧ Trace.created checking = [] ∧
    ∀ m ∈ made, m.2 ∈ left ∨ ∃ c, (m.2.id, c) ∈ inspected checking ∧ c.state = .running

/-- The trace goes on quietly and shows that the container runs. -/
def Sees (id : String) (t t' : Trace) : Prop :=
  ∃ more, t' = t ++ more ∧ EndsNothing more ∧ Trace.created more = [] ∧
    ∃ c, (id, c) ∈ inspected more ∧ c.state = .running

theorem Quiet.sees {id : String} {t t' t'' : Trace} (h : Quiet t t') (h' : Sees id t' t'') :
    Sees id t t'' := by
  obtain ⟨before, rfl, he, hc⟩ := h
  obtain ⟨more, rfl, he', hc', c, hin, hrunning⟩ := h'
  exact ⟨before ++ more, List.append_assoc .., he.append he', by simp [hc, hc'], c, by simp [hin],
    hrunning⟩

/-- One look at a container, which ends the wait if it runs. -/
theorem look_meets {d : Deployment} {id : String} {t : Trace} {next : Container → Fleet.Action Unit}
    (hnext : ∀ c t', Quiet t t' →
      (next c).Meets (anyEngine d) (fun _ t'' => Sees id t t'') (fun _ t'' => Quiet t t'') t') :
    (Fleet.call (.inspect id) >>= fun c =>
      if c.state = .running then pure () else next c).Meets (anyEngine d)
        (fun _ t' => Sees id t t') (fun _ t' => Quiet t t') t := by
  rw [Task.meets_bind]
  refine (call_quiet rfl fun _ => rfl).mono (fun c t₁ h₁ => ?_) fun _ _ h => h
  split
  · rename_i hrunning
    obtain ⟨rfl, -⟩ := h₁
    exact ⟨[_], rfl, by simp [EndsNothing, Request.ends?], rfl, c, List.mem_singleton.2 rfl, hrunning⟩
  · exact hnext c t₁ h₁.2

theorem awaitRunning_sees (d : Deployment) (base : Nat) (id : String) (attempt left : Nat)
    (t : Trace) :
    (Fleet.awaitRunning base id attempt left).Meets (anyEngine d) (fun _ t' => Sees id t t')
      (fun _ t' => Quiet t t') t := by
  induction left generalizing attempt t with
  | zero =>
    unfold Fleet.awaitRunning
    exact look_meets fun _ _ h => h
  | succ left ih =>
    unfold Fleet.awaitRunning
    refine look_meets fun c t₁ h₁ => ?_
    dsimp only
    split
    · exact h₁
    · rw [Task.meets_bind]
      refine (Task.meets_ask (r := .pause _)).2 ⟨cautious_of_ends?_eq_none rfl, fun _ t₂ h₂ => ?_⟩
      subst h₂
      have quiet := h₁.trans (quiet_snoc (x := ⟨.pause (base * attempt), ()⟩) rfl rfl)
      exact (ih (attempt + 1) _).mono (fun _ _ => quiet.sees) fun _ _ => quiet.trans

theorem healthCheck_meets (f : Fleet) (d : Deployment) (retries : UInt32)
    (made : List (String × Container)) (left : List Container) (r : Rollout) (t : Trace)
    (h : Checking d made left r t) :
    (f.healthCheck retries left).Meets (anyEngine d) (fun _ t' => Checking d made [] r t')
      (fun _ t' => EndsNothing t') t := by
  induction left generalizing t with
  | nil => exact h
  | cons c left ih =>
    obtain ⟨hf, creating, starting, checking, rfl, hmade, hs, hstarted, hc, hseen⟩ := h
    unfold Fleet.healthCheck
    rw [Task.meets_bind]
    refine (awaitRunning_sees d _ c.id 1 _ _).mono (fun _ t' h' => ?_)
      fun _ _ h => h.endsNothing hf.spares
    obtain ⟨more, rfl, he, hquiet, c', hin, hrunning⟩ := h'
    refine ih _ ⟨hf.append he, creating, starting, checking ++ more, List.append_assoc .., hmade, hs,
      hstarted, by simp [hc, hquiet], fun m hm => ?_⟩
    rcases hseen m hm with hleft | ⟨c₀, hc₀, hrun₀⟩
    · rcases List.mem_cons.1 hleft with rfl | hleft
      · exact .inr ⟨c', by simp [hin], hrunning⟩
      · exact .inl hleft
    · exact .inr ⟨c₀, by simp [hc₀], hrun₀⟩

theorem checkHealth_meets (f : Fleet) (d : Deployment) (made : List (String × Container))
    (r : Rollout) (t : Trace) (h : Starting d made [] r t) :
    (checkHealth f).Meets (anyEngine d) (fun _ r' t' => Checking d made [] r' t')
      (fun _ _ t' => EndsNothing t') r t := by
  obtain ⟨hf, hnew, creating, starting, rfl, hmade, hs, hstarted⟩ := h
  unfold checkHealth
  rw [StepAction.meets_bind, StepAction.meets_get, StepAction.meets_during]
  refine healthCheck_meets f d _ made r.new r _ ⟨hf, creating, starting, [], by simp, hmade, hs,
    by simpa using hstarted, rfl, fun m hm => .inl ?_⟩
  rw [hnew]
  exact List.mem_map_of_mem hm

/-! ## Ending the old containers -/

theorem Checking.proven {d : Deployment} {made : List (String × Container)} {r : Rollout} {t : Trace}
    (h : Checking d made [] r t) : Proven d t := by
  obtain ⟨-, creating, starting, checking, rfl, hmade, hs, hstarted, hc, hseen⟩ := h
  exact ⟨made, creating, starting, checking, [], by simp, hmade.count, by simp [hmade.created, hs, hc],
    hmade.created, hmade.seen, hstarted, fun m hm => (hseen m hm).resolve_left (by simp)⟩

theorem Proven.append {d : Deployment} {t more : Trace} (h : Proven d t)
    (hc : Trace.created more = []) : Proven d (t ++ more) := by
  obtain ⟨made, creating, starting, checking, rest, rfl, hlen, hcreated, hmade⟩ := h
  exact ⟨made, creating, starting, checking, rest ++ more, by simp, hlen,
    by rw [created_append, hcreated, hc, List.append_nil], hmade⟩

/-- The containers of `l` may be ended. -/
def Removing (d : Deployment) (l : List Container) (t : Trace) : Prop := Proven d t ∧ l ∈ listings t

theorem ending_call_meets {d : Deployment} {l : List Container} {c : Container} {t : Trace}
    {call : Engine.Call} (h : Removing d l t) (hc : c ∈ l)
    (hends : (Request.engine call).ends? = some c.id)
    (hcreates : ∀ a : call.Reply, (⟨.engine call, a⟩ : Exchange).created? = none) :
    (Fleet.call call).Meets (anyEngine d) (fun _ t' => Removing d l t')
      (fun _ t' => Removing d l t') t := by
  rw [Fleet.meets_call]
  refine ⟨fun id hid => ⟨h.1, l, h.2, ?_⟩, fun reply t' ht' => ?_⟩
  · rw [hends] at hid
    exact Option.some.inj hid ▸ List.mem_map_of_mem hc
  · subst ht'
    have later : Removing d l (t ++ [⟨.engine call, reply⟩]) :=
      ⟨h.1.append (by simp [Trace.created, hcreates]), by simp [h.2]⟩
    cases reply <;> exact later

theorem ifPresent_meets {d : Deployment} {l : List Container} {a : Fleet.Action Unit} {t : Trace}
    (h : a.Meets (anyEngine d) (fun _ t' => Removing d l t') (fun _ t' => Removing d l t') t) :
    (Fleet.ifPresent a).Meets (anyEngine d) (fun _ t' => Removing d l t') (fun _ _ => True) t := by
  rw [Fleet.meets_ifPresent]
  refine h.mono (fun _ _ h => h) fun e t' h' => ?_
  cases e with
  | error e => by_cases hmissing : e.isNotFound = true <;> simp [hmissing, h']
  | panic text => trivial

theorem removeOld_meets (d : Deployment) (r : Rollout) (t : Trace) (h : Removing d r.current t) :
    removeOld.Meets (anyEngine d) (fun _ _ _ => True) (fun _ _ _ => True) r t := by
  unfold removeOld
  rw [StepAction.meets_bind, StepAction.meets_get]
  refine (StepAction.meets_forM (fun left _ t => Removing d r.current t ∧ left ⊆ r.current) ?_
    ⟨h, List.Subset.refl _⟩).mono (fun _ _ _ _ => trivial) fun _ _ _ h => h
  rintro c left v t ⟨ht, hsub⟩
  have hc : c ∈ r.current := hsub List.mem_cons_self
  rw [StepAction.meets_bind, StepAction.meets_during]
  have hstop : (Fleet.stopIfRunning c).Meets (anyEngine d) (fun _ t' => Removing d r.current t')
      (fun _ _ => True) t := by
    unfold Fleet.stopIfRunning
    split
    · exact ifPresent_meets (ending_call_meets ht hc rfl fun _ => rfl)
    · exact ht
  refine hstop.mono (fun _ t' h' => ?_) fun _ _ h => h
  rw [StepAction.meets_during]
  exact (ifPresent_meets (ending_call_meets h' hc rfl fun _ => rfl)).mono
    (fun _ _ h'' => ⟨h'', fun x hx => hsub (List.mem_cons_of_mem c hx)⟩) fun _ _ h => h

/-! ## The whole attempt -/

theorem fetchCurrent_meets (d : Deployment) (r : Rollout) (t : Trace) (hd : r.config = d)
    (he : EndsNothing t) (hc : Trace.created t = []) :
    fetchCurrent.Meets (anyEngine d) (fun _ r' t' => Creating d d.scale.toNat r' t')
      (fun _ _ t' => EndsNothing t') r t := by
  unfold fetchCurrent
  rw [StepAction.meets_bind, StepAction.meets_get, StepAction.meets_bind]
  refine StepAction.meets_during.2 ((call_quiet rfl fun _ => rfl).mono (fun l t' h => ?_)
    fun _ _ h => h.endsNothing he)
  obtain ⟨rfl, -⟩ := h
  refine ⟨⟨hd, ?_, ?_⟩, [], ?_⟩
  · rw [listings_append]
    exact List.mem_append_right _ (List.mem_singleton.2 rfl)
  · exact he.append (by simp [EndsNothing, Request.ends?])
  · exact ⟨by simp, rfl, by rw [created_append, hc]; rfl, by simp⟩

theorem Creating.append {d : Deployment} {left : Nat} {r : Rollout} {t more : Trace}
    (h : Creating d left r t) (he : EndsNothing more) (hc : Trace.created more = []) :
    Creating d left r (t ++ more) := by
  obtain ⟨hf, made, hlen, hnew, hcreated, hseen⟩ := h
  exact ⟨hf.append he, made, hlen, hnew, by simp [hcreated, hc], fun m hm => by simp [hseen m hm]⟩

theorem pullImage_meets (d : Deployment) (left : Nat) (r : Rollout) (t : Trace)
    (h : Creating d left r t) :
    pullImage.Meets (anyEngine d) (fun _ r' t' => Creating d left r' t')
      (fun _ _ t' => EndsNothing t') r t := by
  unfold pullImage
  rw [StepAction.meets_bind, StepAction.meets_get]
  refine StepAction.meets_during.2 ((call_quiet rfl fun _ => rfl).mono (fun _ t' h' => ?_)
    fun _ _ h' => h'.endsNothing h.1.spares)
  obtain ⟨-, more, rfl, he, hc⟩ := h'
  exact h.append he hc

theorem createContainers_meets (f : Fleet) (d : Deployment) (r : Rollout) (t : Trace)
    (h : Creating d d.scale.toNat r t) :
    (createContainers f).Meets (anyEngine d) (fun _ r' t' => Creating d 0 r' t')
      (fun _ _ t' => EndsNothing t') r t := by
  unfold createContainers
  rw [StepAction.meets_bind, StepAction.meets_get, h.1.config]
  exact createMany_meets f d _ r t h

/-- An announcement shows nothing of the engine. -/
theorem Starting.announced {d : Deployment} {made : List (String × Container)} {r : Rollout}
    {t : Trace} {name : String} {e : Event} (h : Starting d made [] r t) :
    Starting d made [] r (t ++ [⟨.announce name e, ()⟩]) := by
  obtain ⟨hf, hnew, creating, starting, rfl, hmade, hs, hstarted⟩ := h
  refine ⟨hf.append (by simp [EndsNothing, Request.ends?]), hnew, creating, starting ++ [_],
    List.append_assoc .., hmade, ?_, ?_⟩
  · rw [created_append, hs]
    rfl
  · rw [← hstarted, started_append, List.append_assoc]
    rfl

/-- A step is announced and then taken. -/
theorem step_meets {d : Deployment} {job : Job} {name : String} {x : StepAction Rollout Unit}
    {rest : List (Step Program ContainerError Rollout)} {next bad : Rollout → Trace → Prop}
    {post : Except (StepError ContainerError) Unit × Rollout → Trace → Prop} {r : Rollout} {t : Trace}
    (hx : x.Meets (anyEngine d) (fun _ r' t' => next r' t') (fun _ r' t' => bad r' t') r
      (t ++ [⟨.announce job.scope ⟨job.id, .step, name⟩, ()⟩]))
    (hrest : ∀ r' t', next r' t' →
      (Workflow.runSteps "create" job.announceStep rest r').Meets (anyEngine d) post t')
    (hbad : ∀ e r' t', bad r' t' → post (.error (.ofFailure "create" name e), r') t') :
    (Workflow.runSteps "create" job.announceStep (Fleet.step name x :: rest) r).Meets (anyEngine d)
      post t := by
  rw [Workflow.meets_runSteps_cons]
  refine ⟨cautious_of_ends?_eq_none rfl, fun a t' ht' => ?_⟩
  subst ht'
  exact hx.mono (fun _ => hrest) hbad

/-- What is left of a failed attempt: before its last step it has ended nothing. -/
def SparesUntilLast (result : Except (StepError ContainerError) Unit) (t : Trace) : Prop :=
  ∀ e, result = .error e → e.step ≠ "cleanup-old-containers" → EndsNothing t

theorem workflow_meets (f : Fleet) (job : Job) (d : Deployment) (current new : List Container) :
    ((workflow f).runObserved job.announceStep ⟨d, current, new⟩).Meets (anyEngine d)
      (fun r t => SparesUntilLast r.1 t) [] := by
  have quiet : ∀ name e, EndsNothing [(⟨.announce name e, ()⟩ : Exchange)] := fun name e => by
    simp [EndsNothing, Request.ends?]
  refine step_meets (fetchCurrent_meets d _ _ rfl (quiet _ _) rfl) (fun r₁ t₁ h₁ => ?_)
    fun _ _ _ h _ _ _ => h
  refine step_meets (pullImage_meets d _ _ _ (h₁.append (quiet _ _) rfl)) (fun r₂ t₂ h₂ => ?_)
    fun _ _ _ h _ _ _ => h
  refine step_meets (createContainers_meets f d _ _ (h₂.append (quiet _ _) rfl)) (fun r₃ t₃ h₃ => ?_)
    fun _ _ _ h _ _ _ => h
  refine step_meets (startContainers_meets d _ _ (h₃.append (quiet _ _) rfl)) (fun r₄ t₄ h₄ => ?_)
    fun _ _ _ h _ _ _ => h
  obtain ⟨made, h₄⟩ := h₄
  refine step_meets (checkHealth_meets f d made _ _ h₄.announced) (fun r₅ t₅ h₅ => ?_)
    fun _ _ _ h _ _ _ => h
  have removing : ∀ name e, Removing d r₅.current (t₅ ++ [⟨.announce name e, ()⟩]) := fun _ _ =>
    ⟨h₅.proven.append rfl, by simp [h₅.1.listed]⟩
  refine step_meets (removeOld_meets d r₅ _ (removing _ _)) (fun r₆ t₆ _ => ?_) fun e _ _ _ => ?_
  · intro e he
    cases he
  · intro e' he' hstep
    cases e <;> cases he' <;> exact absurd rfl hstep

/-- The step at which an attempt has failed or panicked. -/
def failedStep? : Program (Except (StepError ContainerError) Unit × Job) → Option String
  | .done (.error e, _) => some e.step
  | _ => none

/-- If every inspection answers with the container that was asked for, the containers that were
created are the very ones that were started and found running. -/
theorem Proven.created_running {d : Deployment} {t : Trace} (h : Proven d t)
    (hinspect : ∀ m ∈ inspected t, m.2.id = m.1) :
    ∀ id ∈ Trace.created t, id ∈ started t ∧ ∃ c, (id, c) ∈ inspected t ∧ c.state = .running := by
  obtain ⟨made, creating, starting, checking, rest, rfl, -, hcreated, -, hseen, hstarted, hrunning⟩ := h
  intro id hid
  rw [hcreated] at hid
  obtain ⟨m, hm, rfl⟩ := List.mem_map.1 hid
  have hsame : m.2.id = m.1 := hinspect m (by simp [hseen m hm])
  obtain ⟨c, hc, hstate⟩ := hrunning m hm
  refine ⟨?_, c, by simp [← hsame, hc], hstate⟩
  rw [← hsame]
  simp [hstarted]
  exact .inr (.inl ⟨m.1, m.2, hm, rfl⟩)

/-- One attempt of a rollout, up to any point of it and against any engine. A container is stopped or
removed only after the new ones are proven, and only if the attempt listed it, hence none that it
created if new identifiers differ from listed ones. An attempt that fails or panics before its last
step ends no container at all. -/
theorem endings_follow_proof (f : Fleet) (job : Job) (d : Deployment) (current new : List Container)
    (t : Trace) (q : Program (Except (StepError ContainerError) Unit × Job))
    (hfollows : (({ job with work := .create d current new } : Job).attempt f).Follows t q) :
    (∀ id, q.ending? = some id →
      Proven d t ∧
      (Trace.created t).length = d.scale.toNat ∧
      ((∀ m ∈ inspected t, m.2.id = m.1) →
        ∀ id ∈ Trace.created t, id ∈ started t ∧ ∃ c, (id, c) ∈ inspected t ∧ c.state = .running) ∧
      (∃ l ∈ listings t, id ∈ l.map Container.id) ∧
      ((∀ l ∈ listings t, ∀ c ∈ l, c.id ∉ Trace.created t) → id ∉ Trace.created t)) ∧
    ∀ step, failedStep? q = some step → step ≠ "cleanup-old-containers" → EndsNothing t := by
  have attempt : (({ job with work := .create d current new } : Job).attempt f).Meets (anyEngine d)
      (fun r t => SparesUntilLast r.1 t) [] := by
    unfold Job.attempt
    rw [Program.meets_bind]
    exact (workflow_meets f _ d current new).mono fun _ _ h => h
  have later := attempt.follows hfollows
  refine ⟨fun id hid => ?_, fun step hfailed hstep => ?_⟩
  · cases q with
    | done _ => simp [Program.ending?] at hid
    | ask r next =>
      obtain ⟨hproven, l, hl, hin⟩ := later.1 id hid
      refine ⟨hproven, ?_, hproven.created_running, ⟨l, hl, hin⟩, fun hfresh => ?_⟩
      · obtain ⟨made, _, _, _, _, -, hlen, hcreated, -⟩ := hproven
        rw [List.nil_append] at hcreated
        rw [hcreated, List.length_map, hlen]
      · obtain ⟨c, hc, rfl⟩ := List.mem_map.1 hin
        exact hfresh l hl c hc
  · cases q with
    | ask r next => simp [failedStep?] at hfailed
    | done r =>
      obtain ⟨outcome, job'⟩ := r
      cases outcome with
      | ok _ => simp [failedStep?] at hfailed
      | error e =>
        obtain rfl := Option.some.inj hfailed
        exact later e rfl hstep

/-- A daemon with one running container of a deployment. -/
def serving (d : Deployment) : Daemon where
  engine.memory.containers :=
    let spec := Fleet.specFor {} d (d.name ++ "-0") []
    [⟨spec, { Engine.Memory.newContainer spec "c1" .epoch with state := .running }⟩]
  engine.memory.created := 1

/-- The next attempt to roll out a deployment. -/
def redeployment (d : Deployment) : Program (Except (StepError ContainerError) Unit × Job) :=
  ({ Job.create ⟨0⟩ .epoch d 1 with work := .create d [] [] } : Job).attempt {}

/-- The engine of `serving` is asked for the end of its old container after sixteen exchanges. If
pulling fails, the attempt is over after four, and nothing is ended. -/
theorem endings_follow_proof_redeployment :
    let d := Deployment.new "api" "nginx"
    let e := (redeployment d).exchanges Daemon.serve 16 (serving d)
    let e' := (redeployment d).exchanges Daemon.serve 4
      { serving d with engine.memory.failingPulls := 1 }
    (e.2.ending? = some "c1" ∧ Proven d e.1 ∧ "c1" ∉ Trace.created e.1) ∧
      failedStep? e'.2 = some "pull-image" ∧ EndsNothing e'.1 := by
  intro d e e'
  have hend : e.2.ending? = some "c1" := by decide +kernel
  have hfresh : ∀ l ∈ listings e.1, ∀ c ∈ l, c.id ∉ Trace.created e.1 := by decide +kernel
  have hfail : failedStep? e'.2 = some "pull-image" := by decide +kernel
  have hfollows : (redeployment d).Follows e.1 e.2 := Program.follows_exchanges ..
  have hfollows' : (redeployment d).Follows e'.1 e'.2 := Program.follows_exchanges ..
  have first := (endings_follow_proof {} _ d [] [] e.1 e.2 hfollows).1 "c1" hend
  have second := (endings_follow_proof {} _ d [] [] e'.1 e'.2 hfollows').2 _ hfail
  exact ⟨⟨hend, first.1, first.2.2.2.2 hfresh⟩, hfail, second (by decide)⟩

end Orchestrator.Rollout
