import Orchestrator.Daemon.Basic
import Orchestrator.Proofs.Deployment.Labels
import Orchestrator.Proofs.Engine.Owned
import Orchestrator.Proofs.Program.Setting

/-!
# One deployment's job beside others

A job works on the containers of its deployment while others use the same engine. `Others d s t` is
what a job of `d` may rely on when others take the daemon from `s` to `t`, and `Own d s t` is what it
guarantees of its own requests; the setting `shared d` puts the two together. Of the engine's
containers a job sees only those of its deployment, so the states it passes through are told apart
by the list of these: `At`.

There is one rule for each call a job makes (`list_at`, `create_at`, `remove_at`, ...). Calls may fail
where the daemon says so; under `Terms`, which fix what a calm daemon is, they do not.
-/
namespace Orchestrator

open Engine

/-- The engine in memory. -/
abbrev Daemon.memory (s : Daemon) : Memory := s.engine.memory

/-- The engine in memory as it is: no faults are arranged, and identifiers never repeat. -/
structure Daemon.Steady (s : Daemon) : Prop where
  faultless : s.engine.faults = []
  numbered : s.memory.WellNumbered

/-- What is settled where nothing goes wrong: the network, the secrets, and the endings of names, of
which `base` were given before. -/
structure Terms where
  network : Network
  secret : String → String → Except StoreError Secret
  ending : Nat → String
  base : Nat

namespace Terms

/-- The name of a deployment's container with the ending of a number. -/
def name (k : Terms) (d : String) (n : Nat) : String := d ++ "-" ++ k.ending n

/-- A container's name is none that is still to be given, or was given to it. -/
def Named (k : Terms) (names : Nat) (c : Created) : Prop :=
  (∀ d n, k.base < n → c.spec.name ≠ k.name d n) ∨
    ∃ d n, k.base < n ∧ n ≤ names ∧ c.owner? = some d ∧ c.spec.name = k.name d n

/-- Nothing goes wrong: no failures are due, the network is there, secrets are as settled, and names
never repeat. -/
structure Hold (k : Terms) (s : Daemon) : Prop where
  pulls : s.memory.failingPulls = 0
  creates : s.memory.failingCreates = 0
  starts : s.memory.startState = .running
  network : s.memory.networks.find? s.fleet.network = some k.network
  secrets : ∀ d key, s.store.getSecret d key = k.secret d key
  ending : s.ending = k.ending
  base : k.base ≤ s.names
  distinct : ∀ m n, k.base < m → k.base < n → m ≠ n → ∀ d d', k.name d m ≠ k.name d' n
  named : ∀ c ∈ s.memory.containers, k.Named s.names c

theorem Named.mono {k : Terms} {n n' : Nat} {c : Created} (h : k.Named n c) (hn : n ≤ n') :
    k.Named n' c :=
  h.imp id fun ⟨d, i, hi, hin, hd, hname⟩ => ⟨d, i, hi, by omega, hd, hname⟩

end Terms

/-- What others may do while a job of a deployment is under way: nothing to its containers and to the
networks there are. -/
structure Others (d : String) (terms : Option Terms) (s t : Daemon) : Prop where
  owned : t.memory.owned d = s.memory.owned d
  networks : ∀ name n, s.memory.networks.find? name = some n →
    t.memory.networks.find? name = some n
  created : s.memory.created ≤ t.memory.created
  fleet : t.fleet = s.fleet
  steady : s.Steady → t.Steady
  terms : ∀ k ∈ terms, k.Hold s → k.Hold t ∧ s.names ≤ t.names

/-- What a job of a deployment does: nothing to other deployments' containers. -/
structure Own (d : String) (terms : Option Terms) (s t : Daemon) : Prop where
  foreign : t.memory.foreign d = s.memory.foreign d
  created : s.memory.created ≤ t.memory.created
  fleet : t.fleet = s.fleet
  steady : s.Steady → t.Steady
  terms : ∀ k ∈ terms, k.Hold s → (k.Hold t ∧ s.names ≤ t.names) ∧
    t.memory.networks = s.memory.networks

section

variable {d : String} {terms : Option Terms} {s t u : Daemon}

theorem Others.refl (s : Daemon) : Others d terms s s :=
  ⟨rfl, fun _ _ => id, Nat.le_refl _, rfl, id, fun _ _ h => ⟨h, Nat.le_refl _⟩⟩

theorem Others.trans (h : Others d terms s t) (h' : Others d terms t u) : Others d terms s u where
  owned := h'.owned.trans h.owned
  networks name n hn := h'.networks name n (h.networks name n hn)
  created := Nat.le_trans h.created h'.created
  fleet := h'.fleet.trans h.fleet
  steady := h'.steady ∘ h.steady
  terms k hk hold :=
    have first := h.terms k hk hold
    have second := h'.terms k hk first.1
    ⟨second.1, Nat.le_trans first.2 second.2⟩

/-- What a job does is nothing that a job of another deployment minds. -/
theorem Own.others {k : Terms} {d' : String} (h : Own d (some k) s t) (hne : d ≠ d') (hk : k.Hold s) :
    Others d' (some k) s t where
  owned := Memory.owned_eq_of_foreign_eq hne h.foreign
  networks _ _ hn := (h.terms k rfl hk).2 ▸ hn
  created := h.created
  fleet := h.fleet
  steady := h.steady
  terms k' hk' hold := (h.terms k' hk' hold).1

/-- A job of a deployment asks, and others act before each of its requests is served. -/
def shared (d : String) (terms : Option Terms) : Setting Daemon where
  allowed r s := ∀ t, Others d terms s t → Own d terms t (Daemon.serve r t).2
  answers r s a u := ∃ t, Others d terms s t ∧ Daemon.serve r t = (a, u)

/-- A condition that others keep is met after they have acted, too. -/
theorem Program.Meets.others {α : Type} {p : Program α} {post : α → Daemon → Prop}
    (h : p.Meets (shared d terms) post s) (hst : Others d terms s t)
    (hpost : ∀ a s t, Others d terms s t → post a s → post a t) :
    p.Meets (shared d terms) post t := by
  cases p with
  | done a => exact hpost a s t hst h
  | ask r next =>
    refine ⟨fun u hu => h.1 u (hst.trans hu), fun a v ⟨u, hu, hserve⟩ => ?_⟩
    exact h.2 a v ⟨u, hst.trans hu, hserve⟩

end

/-! ## Beside the engine -/

/-- The daemon goes on with its engine, and with what the terms speak of, as they are. -/
structure Aside (s t : Daemon) : Prop where
  engine : t.engine = s.engine
  fleet : t.fleet = s.fleet
  secrets : ∀ d key, t.store.getSecret d key = s.store.getSecret d key
  names : s.names ≤ t.names
  ending : t.ending = s.ending

section

variable {d : String} {terms : Option Terms} {s t : Daemon}

theorem Aside.memory (h : Aside s t) : t.memory = s.memory :=
  congrArg FaultyEngine.memory h.engine

theorem Aside.steady (h : Aside s t) (hs : s.Steady) : t.Steady :=
  ⟨(congrArg FaultyEngine.faults h.engine).trans hs.faultless, h.memory ▸ hs.numbered⟩

theorem Aside.hold {k : Terms} (h : Aside s t) (hold : k.Hold s) : k.Hold t where
  pulls := h.memory ▸ hold.pulls
  creates := h.memory ▸ hold.creates
  starts := h.memory ▸ hold.starts
  network := by rw [h.memory, h.fleet, hold.network]
  secrets d key := (h.secrets d key).trans (hold.secrets d key)
  ending := h.ending.trans hold.ending
  base := Nat.le_trans hold.base h.names
  distinct := hold.distinct
  named c hc := (hold.named c (h.memory ▸ hc)).mono h.names

theorem Aside.others (h : Aside s t) : Others d terms s t where
  owned := by rw [h.memory]
  networks name n hn := h.memory ▸ hn
  created := Nat.le_of_eq (by rw [h.memory])
  fleet := h.fleet
  steady := h.steady
  terms _ _ hold := ⟨h.hold hold, h.names⟩

theorem Aside.own (h : Aside s t) : Own d terms s t where
  foreign := by rw [h.memory]
  created := Nat.le_of_eq (by rw [h.memory])
  fleet := h.fleet
  steady := h.steady
  terms _ _ hold := ⟨⟨h.hold hold, h.names⟩, by rw [h.memory]⟩

theorem Own.aside {u : Daemon} (h : Own d terms s t) (h' : Aside t u) : Own d terms s u where
  foreign := by rw [h'.memory, h.foreign]
  created := by rw [h'.memory]; exact h.created
  fleet := h'.fleet.trans h.fleet
  steady := h'.steady ∘ h.steady
  terms k hk hold := by
    obtain ⟨⟨hold', hnames⟩, hnetworks⟩ := h.terms k hk hold
    exact ⟨⟨h'.hold hold', Nat.le_trans hnames h'.names⟩, by rw [h'.memory, hnetworks]⟩

/-- Only calls reach the engine. -/
theorem aside_serve {r : Request} (hr : ∀ c, r ≠ .engine c) (s : Daemon) :
    Aside s (Daemon.serve r s).2 := by
  cases r with
  | engine c => exact absurd rfl (hr c)
  | suffix => exact ⟨rfl, rfl, fun _ _ => rfl, Nat.le_succ _, rfl⟩
  | secret _ _ => exact ⟨rfl, rfl, fun _ _ => rfl, Nat.le_refl _, rfl⟩
  | pause _ => exact ⟨rfl, rfl, fun _ _ => rfl, Nat.le_refl _, rfl⟩
  | announce _ _ => exact ⟨rfl, rfl, fun _ _ => rfl, Nat.le_refl _, rfl⟩
  | isBusy _ => exact ⟨rfl, rfl, fun _ _ => rfl, Nat.le_refl _, rfl⟩
  | offer _ _ => exact ⟨rfl, rfl, fun _ _ => rfl, Nat.le_refl _, rfl⟩

end

/-! ## Serving calls without faults -/

namespace Daemon

variable {s : Daemon} {c : Call}

/-- The daemon after a call. -/
def called (s : Daemon) (c : Call) : Daemon := (Daemon.serve (.engine c) s).2

theorem serve_engine (h : s.engine.faults = []) :
    (Daemon.serve (.engine c) s).1 = (s.memory.serve s.stamp.1 c).1.mapError .error ∧
      (s.called c).memory = (s.memory.serve s.stamp.1 c).2 ∧ (s.called c).engine.faults = [] ∧
      (s.called c).fleet = s.fleet ∧ (s.called c).store = s.store ∧ (s.called c).names = s.names ∧
      (s.called c).ending = s.ending := by
  simp [called, Daemon.serve, FaultyEngine.serve, FaultyEngine.noted, stamp, h, useFault]

theorem Steady.called (h : s.Steady) (c : Call) : (s.called c).Steady :=
  ⟨(serve_engine h.faultless).2.2.1, (serve_engine h.faultless).2.1 ▸ h.numbered.serve ..⟩

end Daemon

/-! ## What a call leaves of the terms -/

/-- The engine has the same settings, and its containers are some it had, perhaps changed. -/
structure Mild (m m' : Memory) : Prop where
  pulls : m'.failingPulls = m.failingPulls
  creates : m'.failingCreates = m.failingCreates
  starts : m'.startState = m.startState
  networks : m'.networks = m.networks
  containers : ∀ c' ∈ m'.containers, ∃ c ∈ m.containers, c'.spec = c.spec ∧ c'.owner? = c.owner?

section

variable {m : Memory} {id : String}

theorem mild_of_containers_eq {m' : Memory} (h : m'.containers = m.containers)
    (hpulls : m'.failingPulls = m.failingPulls) (hcreates : m'.failingCreates = m.failingCreates)
    (hstarts : m'.startState = m.startState) (hnetworks : m'.networks = m.networks) : Mild m m' :=
  ⟨hpulls, hcreates, hstarts, hnetworks, fun c hc => ⟨c, h ▸ hc, rfl, rfl⟩⟩

theorem mild_update {f : Container → Container} (hf : ∀ c, (f c).labels = c.labels) :
    Mild m (m.update id f) := by
  refine ⟨rfl, rfl, rfl, rfl, fun c hc => ?_⟩
  rw [Memory.containers_update] at hc
  obtain ⟨c', hc', rfl⟩ := List.mem_map.1 hc
  refine ⟨c', hc', ?_, Created.owner?_change hf c'⟩
  unfold Created.change
  split <;> rfl

theorem mild_drop : Mild m (m.drop id) :=
  ⟨rfl, rfl, rfl, rfl, fun c hc => ⟨c, (List.mem_filter.1 hc).1, rfl, rfl⟩⟩

end

section

variable {d : String} {terms : Option Terms} {s : Daemon} {c : Call}

theorem Terms.Hold.called {k : Terms} (h : k.Hold s) (hs : s.Steady)
    (hm : Mild s.memory (s.memory.serve s.stamp.1 c).2) : k.Hold (s.called c) := by
  obtain ⟨-, hmemory, -, hfleet, hstore, hnames, hending⟩ := Daemon.serve_engine (c := c) hs.faultless
  rw [← hmemory] at hm
  refine ⟨hm.pulls.trans h.pulls, hm.creates.trans h.creates, hm.starts.trans h.starts, ?_, ?_,
    hending.trans h.ending, hnames ▸ h.base, h.distinct, fun c' hc' => ?_⟩
  · rw [hm.networks, hfleet, h.network]
  · rw [hstore]
    exact h.secrets
  · obtain ⟨c, hc, hspec, howner⟩ := hm.containers c' hc'
    have := h.named c hc
    simpa only [Terms.Named, hspec, howner, hnames] using this

theorem Memory.created_le_serve (m : Memory) (now : Instant) (c : Call) :
    m.created ≤ (m.serve now c).2.created := by
  cases c with
  | create spec =>
    unfold Memory.serve Memory.create
    dsimp only
    split
    · exact Nat.le_refl _
    · split
      · exact Nat.le_refl _
      · exact Nat.le_succ _
  | pull _ => unfold Memory.serve Memory.pull; dsimp only; split <;> exact Nat.le_refl _
  | start _ => unfold Memory.serve Memory.start; dsimp only; split <;> exact Nat.le_refl _
  | stop _ _ => unfold Memory.serve Memory.stop; dsimp only; split <;> exact Nat.le_refl _
  | remove _ _ =>
    unfold Memory.serve Memory.remove
    dsimp only
    split
    · exact Nat.le_refl _
    · split <;> exact Nat.le_refl _
  | connect _ _ =>
    unfold Memory.serve Memory.connect
    dsimp only
    split
    · split <;> exact Nat.le_refl _
    · exact Nat.le_refl _
  | list _ _ => exact Nat.le_refl _
  | inspect _ => exact Nat.le_refl _
  | network _ => exact Nat.le_refl _
  | createNetwork _ => exact Nat.le_refl _

/-- A call that keeps other deployments' containers is a job's own, if it keeps the terms. -/
theorem own_called (hs : s.Steady)
    (hforeign : (s.memory.serve s.stamp.1 c).2.foreign d = s.memory.foreign d)
    (hterms : ∀ k ∈ terms, k.Hold s →
      k.Hold (s.called c) ∧ (s.memory.serve s.stamp.1 c).2.networks = s.memory.networks) :
    Own d terms s (s.called c) := by
  obtain ⟨-, hmemory, -, hfleet, -, hnames, -⟩ := Daemon.serve_engine (c := c) hs.faultless
  refine ⟨?_, ?_, hfleet, fun _ => hs.called c, fun k hk hold => ?_⟩
  · rw [hmemory, hforeign]
  · rw [hmemory]
    exact Memory.created_le_serve ..
  · obtain ⟨hold', hnetworks⟩ := hterms k hk hold
    exact ⟨⟨hold', hnames ▸ Nat.le_refl _⟩, by rw [hmemory, hnetworks]⟩

end

end Orchestrator
