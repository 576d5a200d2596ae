import Orchestrator.Proofs.Daemon.Calls
import Orchestrator.Proofs.Text.Hex

/-!
# Creating a container beside others

Before a container is created its network is looked up, its secrets are read, and it gets a name.
While others may name containers as well, a name that was given to a deployment is used by nobody:
`Terms.Drawn`. So creating a container fails only if creations are made to fail.

Main statement: `create_at`, the container a job creates is a `Replica` of its deployment.
-/
namespace Orchestrator

open Engine

/-! ## Secrets -/

/-- The secrets of a list of keys and aliases, by what is known of them; those that do not exist are
passed over. -/
def Terms.found (k : Terms) (deployment : String) :
    List (String × String) → Except StoreError (List Fleet.Resolved)
  | [] => .ok []
  | (key, aliasText) :: rest =>
    match k.secret deployment key with
    | .ok secret => (k.found deployment rest).map fun more => ⟨aliasText, secret⟩ :: more
    | .error (.unknownSecret ..) => k.found deployment rest
    | .error e => .error e

/-- The environment of a deployment's containers. -/
def Terms.env (k : Terms) (config : Deployment) : Except StoreError (List String) :=
  (k.found config.name config.secrets.entries).map (Fleet.environment config.env)

section

variable {d : String} {f : Fleet} {terms : Option Terms} {since : Nat} {net : Option Network}
  {L : List Created} {s t : Daemon}

theorem secret_at {name key : String} {bad : Failure ContainerError → Daemon → Prop}
    (h : At d f terms since net L s) :
    (Task.ask (.secret name key) : Fleet.Action _).Meets (shared d terms)
      (fun a u => At d f terms since net L u ∧ ∀ k ∈ terms, a = k.secret name key) bad s :=
  ask_at (by simp) h fun t _ ht later => ⟨later, fun k hk => (ht.hold k hk).secrets name key⟩

theorem resolve_at {name : String} {entries : List (String × String)}
    (h : At d f terms since net L s) :
    (Fleet.resolve name entries).Meets (shared d terms)
      (fun found u => At d f terms since net L u ∧ ∀ k ∈ terms, k.found name entries = .ok found)
      (fun _ u => At d f terms since net L u ∧ ∀ k ∈ terms, ∃ e, k.found name entries = .error e)
      s := by
  induction entries generalizing s with
  | nil => exact ⟨h, fun _ _ => rfl⟩
  | cons entry rest ih =>
    obtain ⟨key, aliasText⟩ := entry
    unfold Fleet.resolve
    rw [Task.meets_bind]
    refine (secret_at h).mono (fun a t ⟨ht, ha⟩ => ?_) fun _ _ h => h
    match a with
    | .ok secret =>
      rw [Task.meets_bind]
      refine (ih ht).mono (fun found u ⟨hu, hfound⟩ => ⟨hu, fun k hk => ?_⟩)
        fun _ u ⟨hu, hfail⟩ => ⟨hu, fun k hk => ?_⟩
      · simp [Terms.found, ← ha k hk, hfound k hk, Except.map]
      · obtain ⟨e, he⟩ := hfail k hk
        exact ⟨e, by simp [Terms.found, ← ha k hk, he, Except.map]⟩
    | .error (.unknownSecret ..) =>
      refine (ih ht).mono (fun found u ⟨hu, hfound⟩ => ⟨hu, fun k hk => ?_⟩)
        fun _ u ⟨hu, hfail⟩ => ⟨hu, fun k hk => ?_⟩
      · simp [Terms.found, ← ha k hk, hfound k hk]
      · obtain ⟨e, he⟩ := hfail k hk
        exact ⟨e, by simp [Terms.found, ← ha k hk, he]⟩
    | .error (.invalid e) => exact ⟨ht, fun k hk => ⟨.invalid e, by simp [Terms.found, ← ha k hk]⟩⟩
    | .error (.unknownDeployment e) =>
      exact ⟨ht, fun k hk => ⟨.unknownDeployment e, by simp [Terms.found, ← ha k hk]⟩⟩
    | .error .undecodable => exact ⟨ht, fun k hk => ⟨.undecodable, by simp [Terms.found, ← ha k hk]⟩⟩

theorem resolveEnv_at {config : Deployment} (h : At d f terms since net L s) :
    (Fleet.resolveEnv config).Meets (shared d terms)
      (fun env u => At d f terms since net L u ∧ ∀ k ∈ terms, k.env config = .ok env)
      (fun _ u => At d f terms since net L u ∧ ∀ k ∈ terms, ∃ e, k.env config = .error e) s := by
  unfold Fleet.resolveEnv
  rw [Task.meets_bind]
  refine (resolve_at h).mono (fun found u ⟨hu, hfound⟩ => ⟨hu, fun k hk => ?_⟩)
    fun _ u ⟨hu, hfail⟩ => ⟨hu, fun k hk => ?_⟩
  · simp [Terms.env, hfound k hk, Except.map]
  · obtain ⟨e, he⟩ := hfail k hk
    exact ⟨e, by simp [Terms.env, he, Except.map]⟩

/-! ## Names -/

/-- A name was given to a deployment, and none of its containers `L` has it yet. -/
def Terms.Drawn (k : Terms) (d : String) (L : List Created) (name : String) (names : Nat) : Prop :=
  ∃ n, k.base < n ∧ n ≤ names ∧ name = k.name d n ∧ ∀ c ∈ L, c.spec.name ≠ name

theorem Terms.Drawn.mono {k : Terms} {name : String} {n n' : Nat} (h : k.Drawn d L name n)
    (hn : n ≤ n') : k.Drawn d L name n' :=
  h.imp fun _ ⟨hi, hin, hrest⟩ => ⟨hi, Nat.le_trans hin hn, hrest⟩

/-- A name with a number has that number, and is of one deployment only. -/
theorem Terms.Hold.name_inj {k : Terms} (h : k.Hold s) {d d' : String} {m n : Nat}
    (hm : k.base < m) (hn : k.base < n) (heq : k.name d m = k.name d' n) : m = n ∧ d = d' := by
  have hmn : m = n := by
    by_contra hne
    exact h.distinct m n hm hn hne d d' heq
  subst hmn
  refine ⟨rfl, ?_⟩
  have heq' := congrArg String.toList heq
  simp only [Terms.name, String.toList_append, List.append_cancel_right_eq] at heq'
  exact String.ext heq'

/-- The endings that a daemon gives without being told otherwise make names that never repeat. -/
theorem Terms.name_ne_name {k : Terms} (h : k.ending = ({} : Daemon).ending) {m n : Nat} (hmn : m ≠ n)
    (d d' : String) : k.name d m ≠ k.name d' n := by
  intro heq
  have split_last : ∀ (d : String) (n : Nat), (((k.name d n).toList.reverse).takeWhile (· ≠ '-')).reverse
      = Text.hexPadded 8 n := by
    intro d n
    have hpure : ∀ c ∈ (Text.hexPadded 8 n).reverse, decide (c ≠ '-') = true := by
      rintro c hc
      rw [decide_eq_true_eq]
      rintro rfl
      exact Text.hyphen_notMem_hexPadded 8 n (List.mem_reverse.1 hc)
    have hname : (k.name d n).toList = d.toList ++ '-' :: Text.hexPadded 8 n := by
      simp [name, h]
    rw [hname, List.reverse_append, List.reverse_cons, List.append_assoc,
      List.takeWhile_append_of_pos hpure]
    simp
  have hdigits : Text.hexPadded 8 m = Text.hexPadded 8 n := by
    rw [← split_last d m, ← split_last d' n, heq]
  exact hmn (Text.hexPadded_injective hdigits)

/-- A name that is given next is none that a container has. -/
theorem Terms.Hold.drawn {k : Terms} (h : k.Hold s) (howned : s.memory.owned d = L) :
    k.Drawn d L (d ++ "-" ++ s.ending (s.names + 1)) (s.names + 1) := by
  have hbase := h.base
  refine ⟨s.names + 1, by omega, Nat.le_refl _, by rw [h.ending]; rfl, fun c hc hname => ?_⟩
  rw [← howned] at hc
  rw [h.ending] at hname
  rcases h.named c (Memory.mem_owned.1 hc).1 with hfree | ⟨d', n, hn, hle, -, hname'⟩
  · exact hfree d (s.names + 1) (by omega) hname
  · have := (h.name_inj (by omega) hn (hname.symm.trans hname')).1
    omega

/-- A name that was drawn for a deployment is free. -/
theorem Terms.Drawn.free {k : Terms} {name : String} (h : k.Drawn d L name s.names) (hold : k.Hold s)
    (howned : s.memory.owned d = L) : ∀ c ∈ s.memory.containers, c.spec.name ≠ name := by
  obtain ⟨n, hn, hle, rfl, hnew⟩ := h
  intro c hc hname
  rcases hold.named c hc with hfree | ⟨d', n', hn', -, howner, hname'⟩
  · exact hfree d n hn hname
  · obtain ⟨-, rfl⟩ := hold.name_inj hn hn' (hname.symm.trans hname')
    exact hnew c (by rw [← howned]; exact Memory.mem_owned.2 ⟨hc, howner⟩) hname

theorem suffix_at {bad : Failure ContainerError → Daemon → Prop} (h : At d f terms since net L s) :
    (Task.ask .suffix : Fleet.Action _).Meets (shared d terms)
      (fun a u => At d f terms since net L u ∧
        ∀ k ∈ terms, k.Drawn d L (d ++ "-" ++ a) u.names) bad s :=
  ask_at (by simp) h fun _ _ ht later => ⟨later, fun k hk => (ht.hold k hk).drawn ht.owned⟩

theorem spec_at {config : Deployment} (hd : config.name = d) (h : At d f terms since net L s) :
    (f.spec config).Meets (shared d terms)
      (fun spec u => At d f terms since net L u ∧ ∃ name env, spec = f.specFor config name env ∧
        ∀ k ∈ terms, k.env config = .ok env ∧ k.Drawn d L name u.names)
      (fun _ u => At d f terms since net L u ∧ ∀ k ∈ terms, ∃ e, k.env config = .error e) s := by
  subst hd
  unfold Fleet.spec
  rw [Task.meets_bind]
  refine (resolveEnv_at h).mono (fun env t ⟨ht, henv⟩ => ?_) fun _ _ h => h
  rw [Task.meets_bind]
  refine (suffix_at ht).mono (fun suffix u ⟨hu, hdrawn⟩ => ?_) fun _ _ h => h
  exact ⟨hu, _, env, rfl, fun k hk => ⟨henv k hk, hdrawn k hk⟩⟩

/-! ## The network -/

theorem network_at (h : At d f terms since net L s) :
    (Fleet.call (.network f.network)).Meets (shared d terms)
      (fun found u => At d f terms since net L u ∧ (∀ n ∈ net, found = some n) ∧
        (∀ n ∈ found, u.memory.networks.find? f.network = some n) ∧ (found = none → terms = none))
      (fun _ _ => False) s := by
  refine answered_at h fun t ht => ?_
  have later := ht.called_mild (c := .network f.network) rfl ht.owned
    (mild_of_containers_eq rfl rfl rfl rfl rfl)
  refine ⟨later.1, _, rfl, later.2, ht.network, fun n hn => ?_, fun hnone => ?_⟩
  · rw [(Daemon.serve_engine ht.steady.faultless).2.1]
    exact hn
  · refine Option.eq_none_iff_forall_not_mem.2 fun k hk => ?_
    have known := (ht.hold k hk).network
    rw [ht.fleet, hnone] at known
    cases known

theorem createNetwork_at (h : At d f terms since net L s) (hterms : terms = none) :
    (Fleet.call (.createNetwork f.network)).Meets (shared d terms)
      (fun n u => At d f terms since (some n) L u) (fun _ _ => False) s := by
  refine answered_at h fun t ht => ?_
  have later : Own d terms t (t.called (.createNetwork f.network)) ∧
      At d f terms since (some (t.memory.createNetwork f.network).1) L
        (t.called (.createNetwork f.network)) := by
    refine ht.called rfl ht.owned (fun n hn => ?_) (by simp [hterms])
    obtain rfl := Option.some.inj hn
    exact (SortedMap.find?_insert ..).trans (if_pos Std.ReflCmp.compare_self)
  exact ⟨later.1, _, rfl, later.2⟩

/-- The network is found, or else it is created; it is the one that is known, if one is. -/
theorem ensureNetwork_at (h : At d f terms since net L s) :
    f.ensureNetwork.Meets (shared d terms)
      (fun n u => At d f terms since (some n) L u ∧ ∀ n' ∈ net, n = n') (fun _ _ => False) s := by
  unfold Fleet.ensureNetwork
  rw [Task.meets_bind]
  refine (network_at h).mono (fun found t ⟨ht, hnet, hfound, hnone⟩ => ?_) fun _ _ h => h
  match found with
  | some n => exact ⟨{ ht with network := hfound }, fun n' hn' => Option.some.inj (hnet n' hn')⟩
  | none =>
    refine (createNetwork_at ht (hnone rfl)).mono (fun n u hu => ⟨hu, fun n' hn' => ?_⟩) fun _ _ h => h
    cases hnet n' hn'

theorem At.network_eq {n : Network} {k : Terms} (h : At d f (some k) since (some n) L s) :
    n = k.network := by
  have known := (h.hold k rfl).network
  rw [h.fleet, h.network n rfl] at known
  exact Option.some.inj known

/-! ## The container -/

/-- A container of a deployment as a rollout makes it, in a network and a state. -/
def Replica (f : Fleet) (config : Deployment) (n : Network) (env : List String)
    (state : ContainerState) (c : Created) : Prop :=
  ∃ name id now, c = ⟨f.specFor config name env,
    ((Memory.newContainer (f.specFor config name env) id now).joined n.id).inState state⟩

/-- A container was created after a number of others. -/
def Newer (since : Nat) (c : Created) : Prop := ∃ n, since < n ∧ c.id = Memory.numbered "c" n

/-- A container that is younger than a state is none of its containers. -/
theorem Newer.not_mem {since : Nat} {c : Created} (h : Newer since c) (hs : s.Steady)
    (hsince : s.memory.created ≤ since) : c.id ∉ s.memory.containers.map Created.id := by
  obtain ⟨n, hn, hid⟩ := h
  rw [List.mem_map]
  rintro ⟨c', hc', hid'⟩
  exact hs.numbered.fresh c' hc' n (by omega) (hid'.trans hid)

theorem Replica.inState {config : Deployment} {n : Network} {env : List String}
    {state : ContainerState} {c : Created} (h : Replica f config n env state c)
    (state' : ContainerState) : Replica f config n env state' (c.map (Container.inState state')) := by
  obtain ⟨name, id, now, rfl⟩ := h
  exact ⟨name, id, now, rfl⟩

/-- After a creation, the terms hold if the name was drawn. -/
theorem Terms.Hold.add {k : Terms} {c : Call} {spec : ContainerSpec} {now : Instant} (h : k.Hold s)
    (hs : s.Steady) (hmemory : (s.memory.serve s.stamp.1 c).2 = s.memory.add now spec)
    (hlabel : spec.labels.find? Container.ownerLabel = some d)
    (hdrawn : k.Drawn d L spec.name s.names) : k.Hold (s.called c) := by
  obtain ⟨-, hcalled, -, hfleet, hstore, hnames, hending⟩ := Daemon.serve_engine (c := c) hs.faultless
  rw [hmemory] at hcalled
  refine ⟨hcalled ▸ h.pulls, hcalled ▸ h.creates, hcalled ▸ h.starts, ?_, ?_,
    hending.trans h.ending, hnames ▸ h.base, h.distinct, fun c' hc' => ?_⟩
  · rw [hcalled, hfleet]
    exact h.network
  · rw [hstore]
    exact h.secrets
  · rw [hcalled] at hc'
    rw [hnames]
    rcases List.mem_append.1 hc' with hc' | hc'
    · exact h.named c' hc'
    · obtain rfl := List.mem_singleton.1 hc'
      obtain ⟨n, hn, hle, hname, -⟩ := hdrawn
      exact .inr ⟨d, n, hn, hle, hlabel, hname⟩

theorem create_call_at {spec : ContainerSpec} (h : At d f terms since net L s)
    (hlabel : spec.labels.find? Container.ownerLabel = some d)
    (hdrawn : ∀ k ∈ terms, k.Drawn d L spec.name s.names) :
    (Fleet.call (.create spec)).Meets (shared d terms)
      (fun id u => ∃ now, At d f terms since net (L ++ [⟨spec, Memory.newContainer spec id now⟩]) u ∧
        ∃ n, since < n ∧ id = Memory.numbered "c" n)
      (fun _ u => At d f terms since net L u ∧ terms = none) s := by
  refine call_at h fun t hst ht => ?_
  have drawn : ∀ k ∈ terms, k.Drawn d L spec.name t.names := fun k hk =>
    (hdrawn k hk).mono (hst.terms k hk (h.hold k hk)).2
  by_cases hfail : t.memory.failingCreates > 0
  · have calm : terms = none := Option.eq_none_iff_forall_not_mem.2 fun k hk => by
      have := (ht.hold k hk).creates
      omega
    have served : t.memory.serve t.stamp.1 (.create spec)
        = (.error (.api ("cannot create " ++ spec.name)),
          { t.memory with failingCreates := t.memory.failingCreates - 1 }) := if_pos hfail
    have later := ht.called_unsettled (c := .create spec) calm (by rw [served]) (by rw [served])
    rw [congrArg Prod.fst served]
    exact ⟨later.1, later.2, calm⟩
  · by_cases hused : (t.memory.containers.any fun c => c.spec.name = spec.name) = true
    · have calm : terms = none := Option.eq_none_iff_forall_not_mem.2 fun k hk => by
        obtain ⟨c, hc, hname⟩ := List.any_eq_true.1 hused
        exact (drawn k hk).free (ht.hold k hk) ht.owned c hc (of_decide_eq_true hname)
      have served : t.memory.serve t.stamp.1 (.create spec)
          = (.error (.api ("conflict: container name " ++ spec.name ++ " already in use")), t.memory) :=
        (if_neg hfail).trans (if_pos hused)
      have later := ht.called_unsettled (c := .create spec) calm (by rw [served]) (by rw [served])
      rw [congrArg Prod.fst served]
      exact ⟨later.1, later.2, calm⟩
    · have served : t.memory.serve t.stamp.1 (.create spec)
          = (.ok (Memory.numbered "c" (t.memory.created + 1)), t.memory.add t.stamp.1 spec) :=
        (if_neg hfail).trans (if_neg hused)
      have later : Own d terms t (t.called (.create spec)) ∧
          At d f terms since net (L ++ [⟨spec, Memory.newContainer spec
            (Memory.numbered "c" (t.memory.created + 1)) t.stamp.1⟩]) (t.called (.create spec)) := by
        refine ht.called ?_ ?_ ?_ fun k hk hold => ⟨?_, ?_⟩
        · rw [served, Memory.foreign_add hlabel]
        · rw [served, Memory.owned_add hlabel, ht.owned]
        · rw [served]
          exact ht.network
        · exact hold.add ht.steady (congrArg Prod.snd served) hlabel (drawn k hk)
        · rw [served]
          rfl
      rw [congrArg Prod.fst served]
      exact ⟨later.1, t.stamp.1, later.2, t.memory.created + 1, Nat.lt_succ_of_le ht.later, rfl⟩

/-- Creating a container adds a replica to the deployment's containers. -/
theorem create_at {config : Deployment} (hd : config.name = d) (h : At d f terms since net L s) :
    (f.create config).Meets (shared d terms)
      (fun x u => ∃ n c env, (∀ n' ∈ net, n = n') ∧ At d f terms since (some n) (L ++ [c]) u ∧
        x = c.container ∧ Replica f config n env .created c ∧ Newer since c ∧
        ∀ k ∈ terms, k.env config = .ok env)
      (fun _ u => ∃ net' L', At d f terms since net' L' u ∧
        ∀ k ∈ terms, L' = L ∧ ∃ e, k.env config = .error e) s := by
  unfold Fleet.create
  rw [Task.meets_bind]
  refine (ensureNetwork_at h).mono (fun n t ⟨ht, hn⟩ => ?_) fun _ _ h => h.elim
  rw [Task.meets_bind]
  refine (spec_at hd ht).mono (fun spec t₁ ⟨ht₁, name, env, hspec, hterms⟩ => ?_)
    fun _ u ⟨hu, hfail⟩ => ⟨some n, L, hu, fun k hk => ⟨rfl, hfail k hk⟩⟩
  subst hspec
  rw [Task.meets_bind]
  refine (create_call_at ht₁ ?_ fun k hk => (hterms k hk).2).mono
    (fun id t₂ ⟨now, ht₂, hid⟩ => ?_) fun _ u ⟨hu, hcalm⟩ => ⟨some n, L, hu, by simp [hcalm]⟩
  · rw [← hd]
    exact config.find?_containerLabels_owner f.network
  · rw [Task.meets_bind]
    refine (connect_at L ht₂).mono (fun _ t₃ ht₃ => ?_) fun _ _ h => h.elim
    refine (inspect_at ht₃ (c := _) (List.mem_append_right L List.mem_cons_self)).mono
      (fun x u ⟨hx, hu⟩ => ?_) fun _ _ h => h.elim
    exact ⟨n, _, env, hn, hu, hx, ⟨name, id, now, rfl⟩, hid, fun k hk => (hterms k hk).1⟩

/-- Pulling an image fails only if it is made to fail. -/
theorem pull_at {config : Deployment} (h : At d f terms since net L s) :
    (Fleet.pull config).Meets (shared d terms) (fun _ u => At d f terms since net L u)
      (fun _ u => At d f terms since net L u ∧ terms = none) s := by
  refine call_at h fun t _ ht => ?_
  by_cases hfail : t.memory.failingPulls > 0
  · have calm : terms = none := Option.eq_none_iff_forall_not_mem.2 fun k hk => by
      have := (ht.hold k hk).pulls
      omega
    have served : t.memory.serve t.stamp.1 (.pull config.imageReference)
        = (.error (.api ("pull access denied for " ++ config.imageReference)),
          { t.memory with failingPulls := t.memory.failingPulls - 1 }) := if_pos hfail
    have later := ht.called_unsettled (c := .pull config.imageReference) calm (by rw [served])
      (by rw [served])
    rw [congrArg Prod.fst served]
    exact ⟨later.1, later.2, calm⟩
  · have served : t.memory.serve t.stamp.1 (.pull config.imageReference)
        = (.ok (), { t.memory with pulled := t.memory.pulled ++ [config.imageReference] }) :=
      if_neg hfail
    have later : Own d terms t (t.called (.pull config.imageReference)) ∧
        At d f terms since net L (t.called (.pull config.imageReference)) := by
      refine ht.called_mild ?_ ?_ ?_ <;> rw [served]
      · rfl
      · exact ht.owned
      · exact mild_of_containers_eq rfl rfl rfl rfl rfl
    rw [congrArg Prod.fst served]
    exact later

end

end Orchestrator
