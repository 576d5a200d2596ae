import Orchestrator.Proofs.Daemon.Calls
import Orchestrator.Proofs.Store.Deployments

/-!
# How far the creation of a container has come

The creation of a container asks for the network first and creates it if there is none, reads secrets,
draws a name, creates the container, connects it, and looks at it. `Fleet.Stage` tells how far it has
come, `Fleet.Stands` which program is then left, and `Fleet.Stage.Goes` what its next request does, if
others may act in between.
-/
namespace Orchestrator

open Engine

/-! ## One request of a program -/

namespace Program

variable {α β : Type} {s : Daemon}

/-- The next request of a program is served. -/
def turn (s : Daemon) : Program α → Program α × Daemon
  | .done a => (.done a, s)
  | .ask r next => (next (s.serve r).1, (s.serve r).2)

/-- The program ends after so many requests at most. -/
def Within : Nat → Program α → Prop
  | _, .done _ => True
  | 0, .ask _ _ => False
  | n + 1, .ask _ next => ∀ a, Within n (next a)

theorem Within.mono {m n : Nat} {p : Program α} (h : p.Within m) (hle : m ≤ n) : p.Within n := by
  induction p generalizing m n with
  | done a => cases n <;> trivial
  | ask r next ih =>
    cases m with
    | zero => cases h
    | succ m =>
      obtain ⟨k, rfl⟩ : ∃ k, n = k + 1 := ⟨n - 1, by omega⟩
      exact fun a => ih a (h a) (by omega)

theorem Within.bind {m n : Nat} {p : Program α} {f : α → Program β} (hp : p.Within m)
    (hf : ∀ a, (f a).Within n) : (p >>= f).Within (m + n) := by
  induction p generalizing m with
  | done a => exact (hf a).mono (by omega)
  | ask r next ih =>
    cases m with
    | zero => cases hp
    | succ m =>
      rw [Nat.add_right_comm]
      exact fun a => ih a (hp a)

theorem Within.turn {n : Nat} {p : Program α} (h : p.Within (n + 1)) : (p.turn s).1.Within n := by
  cases p with
  | done a => cases n <;> trivial
  | ask r next => exact h _

end Program

theorem Task.within_bind {ε α β : Type} {m n : Nat} {t : Task ε α} {f : α → Task ε β}
    (ht : Program.Within m t.run) (hf : ∀ a, Program.Within n (f a).run) :
    Program.Within (m + n) (t >>= f).run := by
  rw [ExceptT.run_bind]
  refine ht.bind fun r => ?_
  cases r with
  | ok a => exact hf a
  | error e => cases n <;> trivial

namespace Fleet

variable {α : Type} {s : Daemon} {f : Fleet} {store : Store} {ending : Nat → String} {d : Deployment}

theorem within_call (c : Call) : Program.Within 1 (Fleet.call c).run := fun _ => trivial

theorem within_resolve (deployment : String) (entries : List (String × String)) :
    Program.Within entries.length (resolve deployment entries).run := by
  induction entries with
  | nil => trivial
  | cons entry rest ih =>
    rw [List.length_cons, Nat.add_comm]
    refine Task.within_bind (m := 1) (fun _ => trivial) fun answer => ?_
    have hmore : ∀ secret : Resolved, Program.Within rest.length
        ((resolve deployment rest >>= fun found => pure (secret :: found)) : Action _).run :=
      fun _ => Task.within_bind (n := 0) ih fun _ => trivial
    match answer with
    | .ok secret => exact hmore _
    | .error (.unknownSecret ..) => exact ih
    | .error (.invalid _) | .error (.unknownDeployment _) | .error .undecodable =>
      cases rest <;> trivial

/-- The creation of a container makes one request for each secret, and six others at most. -/
theorem within_create (f : Fleet) (d : Deployment) :
    Program.Within (d.secrets.entries.length + 6) (f.create d).run := by
  have hensure : Program.Within 2 f.ensureNetwork.run := by
    refine Task.within_bind (m := 1) (n := 1) (within_call _) fun found => ?_
    cases found with
    | none => exact within_call _
    | some network => trivial
  have hspec : Program.Within (d.secrets.entries.length + 1) (f.spec d).run := by
    refine Task.within_bind (m := d.secrets.entries.length) ?_ fun _ =>
      Task.within_bind (n := 0) (m := 1) (fun _ => trivial) fun _ => trivial
    exact Task.within_bind (n := 0) (within_resolve ..) fun _ => trivial
  have hcreate : Program.Within (2 + (d.secrets.entries.length + 1 + (1 + (1 + 1)))) (f.create d).run :=
    Task.within_bind hensure fun _ => Task.within_bind hspec fun _ =>
      Task.within_bind (within_call _) fun _ => Task.within_bind (within_call _) fun _ => within_call _
  exact hcreate.mono (by omega)

/-! ## What is left of a creation -/

/-- What is left of the creation of a container. -/
abbrev Creation := Program (Except (Failure ContainerError) Container)

/-- The network with a number. -/
def numberedNetwork (f : Fleet) (n : Nat) : Network := ⟨Memory.numbered "net" n, f.network⟩

/-- A container is connected to a network and looked at. -/
def attach (n : Network) (id : String) : Action Container := do
  call (.connect n.id id)
  call (.inspect id)

/-- A container is created and attached to a network. -/
def build (n : Network) (spec : ContainerSpec) : Action Container := do
  let id ← call (.create spec)
  attach n id

/-- What follows when the network is had. -/
def furnish (f : Fleet) (d : Deployment) (n : Network) : Action Container := do
  let spec ← f.spec d
  build n spec

theorem create_eq (f : Fleet) (d : Deployment) : f.create d = f.ensureNetwork >>= f.furnish d := rfl

/-- Secrets are read, and then a name is drawn for a container of the network. -/
inductive Preparing (f : Fleet) (store : Store) (d : Deployment) (n : Network) : Creation → Prop
  | secret {key : String} {next : Except StoreError Secret → Creation}
    (h : Preparing f store d n (next (store.getSecret d.name key))) :
    Preparing f store d n (.ask (.secret d.name key) next)
  | suffix {env : List String} {next : String → Creation}
    (h : ∀ suffix, next suffix = (build n (f.specFor d (d.name ++ "-" ++ suffix) env)).run) :
    Preparing f store d n (.ask .suffix next)

theorem preparing_resolve {n : Network} (hstore : store.SecretsReadable)
    (entries : List (String × String)) {k : List Resolved → Action Container}
    (hk : ∀ found, Preparing f store d n (k found).run) :
    Preparing f store d n (resolve d.name entries >>= k).run := by
  induction entries generalizing k with
  | nil => exact hk []
  | cons entry rest ih =>
    obtain ⟨key, aliasText⟩ := entry
    refine .secret ?_
    rcases Store.getSecret_cases hstore d.name key with ⟨secret, hsecret⟩ | hunknown
    · rw [hsecret]
      have hmore : Preparing f store d n ((resolve d.name rest >>= fun found =>
          pure (⟨aliasText, secret⟩ :: found)) >>= k : Action _).run := by
        rw [bind_assoc]
        exact ih fun found => hk _
      exact hmore
    · rw [hunknown]
      exact ih hk

theorem preparing_furnish {n : Network} (hstore : store.SecretsReadable) :
    Preparing f store d n (f.furnish d n).run := by
  have hassoc : f.furnish d n = resolve d.name d.secrets.entries >>= fun found =>
      Task.ask .suffix >>= fun suffix =>
        build n (f.specFor d (d.name ++ "-" ++ suffix) (environment d.env found)) := by
    simp only [furnish, spec, resolveEnv, bind_assoc, pure_bind]
  rw [hassoc]
  exact preparing_resolve hstore _ fun found => .suffix fun _ => rfl

/-! ## Stages -/

/-- How far a creation has come. Networks, names and containers go by their numbers. -/
inductive Stage where
  /-- It is about to look the network up. -/
  | starting
  /-- It has found no network, and is about to create it. -/
  | lacking
  /-- It has the network, and reads secrets. -/
  | preparing (net : Nat)
  | named (net name : Nat)
  | made (net container : Nat)
  /-- Its container is connected, and is looked at or was. -/
  | joined (net container : Nat)
  /-- It has failed, as its network is gone. -/
  | refused (net container : Nat)

/-- What is left of a creation at a stage. -/
inductive Stands (f : Fleet) (store : Store) (ending : Nat → String) (d : Deployment) :
    Stage → Creation → Prop
  | starting : Stands f store ending d .starting (f.create d).run
  | lacking : Stands f store ending d .lacking (call (.createNetwork f.network) >>= f.furnish d).run
  | preparing {j : Nat} {p : Creation} (h : Preparing f store d (f.numberedNetwork j) p) :
    Stands f store ending d (.preparing j) p
  | named {j m : Nat} {env : List String} : Stands f store ending d (.named j m)
      (build (f.numberedNetwork j) (f.specFor d (d.name ++ "-" ++ ending m) env)).run
  | made {j n : Nat} : Stands f store ending d (.made j n)
      (attach (f.numberedNetwork j) (Memory.numbered "c" n)).run
  | looking {j n : Nat} : Stands f store ending d (.joined j n)
      (call (.inspect (Memory.numbered "c" n))).run
  | joined {j n : Nat} {c : Container} (h : c.networkId = some (Memory.numbered "net" j)) :
    Stands f store ending d (.joined j n) (.done (.ok c))
  | refused {j n : Nat} : Stands f store ending d (.refused j n)
      (.done (.error (.error (.engine (Memory.missing "network" (Memory.numbered "net" j))))))

namespace Stage

/-- What the next request of a creation does: from an engine and the number of names that were drawn, to
a stage and these two afterwards. -/
inductive Goes (f : Fleet) (ending : Nat → String) (d : Deployment) (m : Memory) (names : Nat) :
    Stage → Stage → Memory → Nat → Prop
  | find {j : Nat} (h : m.networks.find? f.network = some (f.numberedNetwork j)) :
    Goes f ending d m names .starting (.preparing j) m names
  | lack (h : m.networks.find? f.network = none) : Goes f ending d m names .starting .lacking m names
  | establish : Goes f ending d m names .lacking (.preparing (m.networksCreated + 1))
      (m.createNetwork f.network).2 names
  | read {j : Nat} : Goes f ending d m names (.preparing j) (.preparing j) m names
  | draw {j : Nat} : Goes f ending d m names (.preparing j) (.named j (names + 1)) m (names + 1)
  | make {j k : Nat} {env : List String} {now : Instant} :
    Goes f ending d m names (.named j k) (.made j (m.created + 1))
      (m.add now (f.specFor d (d.name ++ "-" ++ ending k) env)) names
  | join {j n : Nat} : Goes f ending d m names (.made j n) (.joined j n)
      (m.update (Memory.numbered "c" n) (Container.joined (Memory.numbered "net" j))) names
  | refuse {j n : Nat} (h : ∀ net ∈ m.networks.values, net.id ≠ Memory.numbered "net" j) :
    Goes f ending d m names (.made j n) (.refused j n) m names
  | look {j n : Nat} {inspections : SortedMap String Nat} :
    Goes f ending d m names (.joined j n) (.joined j n) { m with inspections := inspections } names
  | rest {g : Stage} : Goes f ending d m names g g m names

/-- The network that a stage has its container connected to. -/
def link? : Stage → Option Nat
  | .joined j _ => some j
  | _ => none

/-- The container of a stage. -/
def container? : Stage → Option Nat
  | .made _ n | .joined _ n | .refused _ n => some n
  | _ => none

/-- The name that a stage has drawn and not used. -/
def name? : Stage → Option Nat
  | .named _ m => some m
  | _ => none

/-- The network of a stage. -/
def net? : Stage → Option Nat
  | .starting | .lacking => none
  | .preparing j | .named j _ | .made j _ | .joined j _ | .refused j _ => some j

/-- The network of a stage that has failed. -/
def gone? : Stage → Option Nat
  | .refused j _ => some j
  | _ => none

/-- A stage's name is free, and its container is there. -/
structure Backed (ending : Nat → String) (m : Memory) (g : Stage) : Prop where
  name : ∀ k ∈ g.name?, ∀ c ∈ m.containers, ∀ d, c.spec.name ≠ d ++ "-" ++ ending k
  container : ∀ n ∈ g.container?, ∃ c ∈ m.containers, c.id = Memory.numbered "c" n ∧
    c.container.networkId = g.link?.map (Memory.numbered "net")

end Stage

/-! ## How a creation goes on -/

/-- A call leaves what depends on its outcome. -/
theorem turn_call {c : Call} {k : c.Value → Action α} (hs : s.engine.faults = []) :
    (call c >>= k).run.turn s = ((ExceptT.mk (.done ((s.memory.serve s.stamp.1 c).1.mapError
      fun e => .error (.engine e))) >>= k).run, s.called c) := by
  refine Prod.ext ?_ rfl
  have hreply := (Daemon.serve_engine (c := c) hs).1
  change (ExceptT.mk (Program.done ((Daemon.serve (.engine c) s).1.mapError (Failure.map .engine)))
    >>= k).run = _
  rw [hreply]
  cases (s.memory.serve s.stamp.1 c).1 <;> rfl

/-- A creation at a stage goes on to another. -/
def GoesOn (s : Daemon) (d : Deployment) (g : Stage) (p : Creation) : Prop :=
  ∃ g', Stands s.fleet s.store s.ending d g' (p.turn s).1 ∧
    g.Goes s.fleet s.ending d s.memory s.names g' (p.turn s).2.memory (p.turn s).2.names

/-- It does so with a call, if what the engine makes of the call leads from one stage to the other. -/
theorem goesOn_call {c : Call} {k : c.Value → Action Container} {outcome : c.Outcome} {m : Memory}
    {g g' : Stage} (hs : s.engine.faults = []) (hserve : s.memory.serve s.stamp.1 c = (outcome, m))
    (hstands : Stands s.fleet s.store s.ending d g'
      (ExceptT.mk (.done (outcome.mapError fun e => .error (.engine e))) >>= k).run)
    (hgoes : g.Goes s.fleet s.ending d s.memory s.names g' m s.names) :
    GoesOn s d g (call c >>= k).run := by
  obtain ⟨-, hmemory, -, -, -, hnames, -⟩ := Daemon.serve_engine (c := c) hs
  rw [hserve] at hmemory
  rw [GoesOn, turn_call hs, hserve, hmemory, hnames]
  exact ⟨g', hstands, hgoes⟩

/-- A creation goes on from stage to stage. -/
theorem Stands.goes {g : Stage} {p : Creation} (h : Stands s.fleet s.store s.ending d g p)
    (hs : s.Steady) (hcreates : s.memory.failingCreates = 0) (hstore : s.store.SecretsReadable)
    (hnet : ∀ n, s.memory.networks.find? s.fleet.network = some n →
      ∃ j, n = s.fleet.numberedNetwork j) (hg : g.Backed s.ending s.memory) : GoesOn s d g p := by
  cases h with
  | starting =>
    rw [create_eq, ensureNetwork, bind_assoc]
    cases hfind : s.memory.networks.find? s.fleet.network with
    | none =>
      have hserve : s.memory.serve s.stamp.1 (.network s.fleet.network) = (.ok none, s.memory) :=
        congrArg (fun found => (Except.ok found, s.memory)) hfind
      exact goesOn_call hs.faultless hserve .lacking (.lack hfind)
    | some n =>
      have hserve : s.memory.serve s.stamp.1 (.network s.fleet.network) = (.ok (some n), s.memory) :=
        congrArg (fun found => (Except.ok found, s.memory)) hfind
      obtain ⟨j, rfl⟩ := hnet n hfind
      exact goesOn_call hs.faultless hserve (.preparing (preparing_furnish hstore)) (.find hfind)
  | lacking => exact goesOn_call hs.faultless rfl (.preparing (preparing_furnish hstore)) .establish
  | preparing h =>
    cases h with
    | secret h => exact ⟨_, .preparing h, .read⟩
    | @suffix env next h =>
      have hnext : ((Program.ask .suffix next).turn s).1 = _ := h (s.ending (s.names + 1))
      rw [GoesOn, hnext]
      exact ⟨_, .named, .draw⟩
  | @named j k env =>
    let spec := s.fleet.specFor d (d.name ++ "-" ++ s.ending k) env
    have hfree : (s.memory.containers.any fun c => c.spec.name = spec.name) = false :=
      List.any_eq_false.2 fun c hc => decide_eq_true_iff.not.2 (hg.name k rfl c hc d.name)
    have hserve : s.memory.serve s.stamp.1 (.create spec)
        = (.ok (Memory.numbered "c" (s.memory.created + 1)), s.memory.add s.stamp.1 spec) :=
      (if_neg (Nat.not_lt.2 (Nat.le_of_eq hcreates))).trans (if_neg (Bool.eq_false_iff.1 hfree))
    exact goesOn_call hs.faultless hserve .made .make
  | @made j n =>
    obtain ⟨c, hc, hid, -⟩ := hg.container n rfl
    have hfind : s.memory.find? (Memory.numbered "c" n) = some c := hid ▸ hs.numbered.find?_eq hc
    cases hany : s.memory.networks.values.any fun net => net.id = Memory.numbered "net" j with
    | true =>
      have hserve : s.memory.serve s.stamp.1
          (.connect (Memory.numbered "net" j) (Memory.numbered "c" n))
          = (.ok (), s.memory.update (Memory.numbered "c" n)
            (Container.joined (Memory.numbered "net" j))) := by
        simp only [Memory.serve, Memory.connect, hany, hfind, if_true]
        rfl
      exact goesOn_call hs.faultless hserve .looking .join
    | false =>
      have hserve : s.memory.serve s.stamp.1
          (.connect (Memory.numbered "net" j) (Memory.numbered "c" n))
          = (.error (Memory.missing "network" (Memory.numbered "net" j)), s.memory) := by
        simp only [Memory.serve, Memory.connect, hany]
        rfl
      refine goesOn_call hs.faultless hserve .refused (.refuse fun net hnet => ?_)
      simpa using List.any_eq_false.1 hany net hnet
  | @looking j n =>
    obtain ⟨c, hc, hid, hlink⟩ := hg.container n rfl
    obtain ⟨inspections, hserve⟩ : ∃ inspections,
        s.memory.serve s.stamp.1 (.inspect (Memory.numbered "c" n))
          = (.ok c.container, { s.memory with inspections := inspections }) := by
      refine ⟨_, Prod.ext ?_ rfl⟩
      simp only [Memory.serve, Memory.inspect, hid ▸ hs.numbered.find?_eq hc]
    rw [← bind_pure (call _)]
    exact goesOn_call hs.faultless hserve (.joined hlink) .look
  | joined h => exact ⟨_, .joined h, .rest⟩
  | refused => exact ⟨_, .refused, .rest⟩

end Fleet

end Orchestrator
