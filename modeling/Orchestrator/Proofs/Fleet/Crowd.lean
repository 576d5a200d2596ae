import Mathlib.Logic.Function.Basic
import Orchestrator.Proofs.Fleet.Stages

/-!
# Containers created side by side

In a `Crowd` callers create containers in one daemon, and each of their requests is served in a turn of
its own. Three things stay true of the engine and of how far the callers have come, whatever the order
of the turns: the network is the one that was created last (`Linked`), a name that was drawn is free
until its caller uses it (`Labelled`), and each new container is one caller's, and connected as he has
left it (`Stocked`).
-/
namespace Orchestrator

open Engine Fleet

/-- Callers that create containers in one daemon. -/
structure Crowd where
  daemon : Daemon
  callers : List Creation

/-- Is the program about to create a network? -/
def aboutToCreate {α : Type} : Program α → Bool
  | .ask (.engine (.createNetwork _)) _ => true
  | _ => false

namespace Crowd

/-- The next request of one caller is served. -/
def turn (c : Crowd) (i : Nat) : Crowd :=
  match c.callers[i]? with
  | none => c
  | some p => ⟨(p.turn c.daemon).2, c.callers.set i (p.turn c.daemon).1⟩

/-- The callers take turns. -/
def after (c : Crowd) (turns : List Nat) : Crowd := turns.foldl turn c

/-- How many callers are about to create the network. -/
def about (c : Crowd) : Nat := c.callers.countP aboutToCreate

end Crowd

/-- For each of some deployments a container is to be created. -/
def Daemon.crowd (s : Daemon) (ds : List Deployment) : Crowd :=
  ⟨s, ds.map fun d => (s.fleet.create d).run⟩

/-- The network is not there, and nothing goes wrong by itself: no failures are due, secrets can be read,
and neither identifiers nor names repeat. -/
structure Daemon.Networkless (s : Daemon) : Prop where
  steady : s.Steady
  absent : s.memory.networks.find? s.fleet.network = none
  named : ∀ name n, s.memory.networks.find? name = some n → n.name = name
  creates : s.memory.failingCreates = 0
  secrets : s.store.SecretsReadable
  fresh : ∀ c ∈ s.memory.containers, ∀ d k, s.names < k → c.spec.name ≠ d ++ "-" ++ s.ending k
  distinct : ∀ d d' k k', s.names < k → s.names < k' → k ≠ k' →
    d ++ "-" ++ s.ending k ≠ d' ++ "-" ++ s.ending k'

variable {s₀ s : Daemon} {stage : Nat → Stage} {m m' : Memory} {names names' i : Nat} {g : Stage}
  {d : Deployment}

/-! ## Networks -/

/-- The network is the one that was created last, and callers that have one have one that was created. -/
structure Linked (s₀ : Daemon) (stage : Nat → Stage) (m : Memory) : Prop where
  current : m.networks.find? s₀.fleet.network =
    if m.networksCreated = s₀.memory.networksCreated then none
    else some (s₀.fleet.numberedNetwork m.networksCreated)
  others : ∀ name, name ≠ s₀.fleet.network → m.networks.find? name = s₀.memory.networks.find? name
  later : s₀.memory.networksCreated ≤ m.networksCreated
  had : ∀ k j, (stage k).net? = some j → s₀.memory.networksCreated < j ∧ j ≤ m.networksCreated
  makers : ∀ j, s₀.memory.networksCreated < j → j ≤ m.networksCreated → ∃ k, (stage k).net? = some j
  gone : ∀ k j, (stage k).gone? = some j → j < m.networksCreated

theorem linked_start (hs₀ : s₀.Networkless) : Linked s₀ (fun _ => .starting) s₀.memory where
  current := hs₀.absent.trans (if_pos rfl).symm
  others _ _ := rfl
  later := Nat.le_refl _
  had _ _ h := by cases h
  makers j hlo hhi := absurd hlo (Nat.not_lt.2 hhi)
  gone _ _ h := by cases h

/-- What a stage tells, when one caller has gone on. -/
theorem stage_update {π : Stage → Option Nat} {k j : Nat}
    (h : π (Function.update stage i g k) = some j) :
    (k = i ∧ π g = some j) ∨ (k ≠ i ∧ π (stage k) = some j) := by
  by_cases hk : k = i
  · subst hk
    rw [Function.update_self] at h
    exact .inl ⟨rfl, h⟩
  · rw [Function.update_of_ne hk] at h
    exact .inr ⟨hk, h⟩

theorem stage_update_eq {α : Type} {π : Stage → α} (h : π g = π (stage i)) (k : Nat) :
    π (Function.update stage i g k) = π (stage k) := by
  by_cases hk : k = i
  · subst hk
    rw [Function.update_self, h]
  · rw [Function.update_of_ne hk]

theorem Linked.keep (h : Linked s₀ stage m) (hnetworks : m'.networks = m.networks)
    (hcreated : m'.networksCreated = m.networksCreated) (hnet : g.net? = (stage i).net?)
    (hgone : g.gone? = (stage i).gone?) : Linked s₀ (Function.update stage i g) m' where
  current := by rw [hnetworks, hcreated, h.current]
  others name hname := by rw [hnetworks, h.others name hname]
  later := hcreated ▸ h.later
  had k j hk := by
    rw [stage_update_eq hnet] at hk
    exact hcreated ▸ h.had k j hk
  makers j hlo hhi := by
    obtain ⟨k, hk⟩ := h.makers j hlo (hcreated ▸ hhi)
    exact ⟨k, (stage_update_eq hnet k).trans hk⟩
  gone k j hk := by
    rw [stage_update_eq hgone] at hk
    exact hcreated ▸ h.gone k j hk

/-- Who has nothing yet takes nothing away. -/
theorem stage_update_of_none {π : Stage → Option Nat} (hnone : π (stage i) = none) {k j : Nat}
    (h : π (stage k) = some j) : π (Function.update stage i g k) = some j := by
  have hne : k ≠ i := by
    rintro rfl
    rw [hnone] at h
    cases h
  rw [Function.update_of_ne hne, h]

/-- What was one caller's stays so, if what the next one takes was nobody's. -/
theorem stage_update_apart {π : Stage → Option Nat}
    (h : ∀ j j' k, π (stage j) = some k → π (stage j') = some k → j = j')
    (hnew : ∀ j k, π g = some k → π (stage j) ≠ some k) {j j' k : Nat}
    (hj : π (Function.update stage i g j) = some k) (hj' : π (Function.update stage i g j') = some k) :
    j = j' := by
  rcases stage_update hj with ⟨hji, hk⟩ | ⟨-, hold⟩ <;>
    rcases stage_update hj' with ⟨hji', hk'⟩ | ⟨-, hold'⟩
  · rw [hji, hji']
  · exact absurd hold' (hnew j' k hk)
  · exact absurd hold (hnew j k hk')
  · exact h j j' k hold hold'

/-- Whoever finds the network finds the one that was created last. -/
theorem Linked.find (h : Linked s₀ stage m) {n : Network}
    (hfind : m.networks.find? s₀.fleet.network = some n) :
    s₀.memory.networksCreated < m.networksCreated ∧
      n = s₀.fleet.numberedNetwork m.networksCreated := by
  have hcurrent := h.current
  rw [hfind] at hcurrent
  split at hcurrent
  · cases hcurrent
  · rename_i hne
    exact ⟨Nat.lt_of_le_of_ne h.later (Ne.symm hne), Option.some.inj hcurrent⟩

/-- Whoever finds no network finds that none was created yet. -/
theorem Linked.lack (h : Linked s₀ stage m) (hfind : m.networks.find? s₀.fleet.network = none) :
    m.networksCreated = s₀.memory.networksCreated := by
  have hcurrent := h.current
  rw [hfind] at hcurrent
  split at hcurrent
  · assumption
  · cases hcurrent

/-- A network that is gone is not the one that was created last. -/
theorem Linked.lt_of_missing (h : Linked s₀ stage m) {k j : Nat} (hk : (stage k).net? = some j)
    (hmissing : ∀ net ∈ m.networks.values, net.id ≠ Memory.numbered "net" j) :
    j < m.networksCreated := by
  obtain ⟨hlo, hhi⟩ := h.had k j hk
  refine Nat.lt_of_le_of_ne hhi ?_
  rintro rfl
  have hcurrent := h.current
  rw [if_neg (by omega)] at hcurrent
  exact hmissing _ (SortedMap.mem_values_of_find? hcurrent) rfl

theorem Linked.step (h : Linked s₀ stage m)
    (hgoes : (stage i).Goes s₀.fleet s₀.ending d m names g m' names') :
    Linked s₀ (Function.update stage i g) m' := by
  generalize hg : stage i = before at hgoes
  cases hgoes with
  | @find j hfind =>
    have hnone : (stage i).net? = none := by rw [hg]; rfl
    obtain ⟨hlo, hj⟩ := h.find hfind
    obtain rfl := Memory.numbered_injective (congrArg Network.id hj)
    refine ⟨h.current, h.others, h.later, fun k j hk => ?_, fun j hlo hhi => ?_, fun k j hk => ?_⟩
    · rcases stage_update hk with ⟨-, hj⟩ | ⟨-, hk⟩
      · obtain rfl := Option.some.inj hj
        exact ⟨hlo, Nat.le_refl _⟩
      · exact h.had k j hk
    · obtain ⟨k, hk⟩ := h.makers j hlo hhi
      exact ⟨k, stage_update_of_none hnone hk⟩
    · rcases stage_update hk with ⟨-, hj⟩ | ⟨-, hk⟩
      · cases hj
      · exact h.gone k j hk
  | establish =>
    have hnone : (stage i).net? = none := by rw [hg]; rfl
    have hlater := h.later
    refine ⟨?_, fun name hname => ?_, Nat.le_succ_of_le hlater, fun k j hk => ?_, fun j hlo hhi => ?_,
      fun k j hk => ?_⟩
    · have hnew : ¬ m.networksCreated + 1 = s₀.memory.networksCreated := by omega
      exact ((SortedMap.find?_insert ..).trans (if_pos Std.ReflCmp.compare_self)).trans
        (if_neg hnew).symm
    · have hne : compare name s₀.fleet.network ≠ .eq := fun heq =>
        hname (Std.LawfulEqOrd.eq_of_compare heq)
      exact (SortedMap.find?_insert ..).trans ((if_neg hne).trans (h.others name hname))
    · rcases stage_update hk with ⟨-, hj⟩ | ⟨-, hk⟩
      · obtain rfl := Option.some.inj hj
        exact ⟨Nat.lt_succ_of_le hlater, Nat.le_refl _⟩
      · have hhad := h.had k j hk
        exact ⟨hhad.1, Nat.le_succ_of_le hhad.2⟩
    · rcases Nat.le_succ_iff.1 hhi with hhi | rfl
      · obtain ⟨k, hk⟩ := h.makers j hlo hhi
        exact ⟨k, stage_update_of_none hnone hk⟩
      · exact ⟨i, by rw [Function.update_self]; rfl⟩
    · rcases stage_update hk with ⟨-, hj⟩ | ⟨-, hk⟩
      · cases hj
      · exact Nat.lt_succ_of_lt (h.gone k j hk)
  | @refuse j n hmissing =>
    have hsame : (Stage.refused j n).net? = (stage i).net? := (congrArg Stage.net? hg).symm
    refine ⟨h.current, h.others, h.later, fun k j hk => ?_, fun j hlo hhi => ?_, fun k j hk => ?_⟩
    · rw [stage_update_eq hsame] at hk
      exact h.had k j hk
    · obtain ⟨k, hk⟩ := h.makers j hlo hhi
      exact ⟨k, (stage_update_eq hsame k).trans hk⟩
    · rcases stage_update hk with ⟨-, hj⟩ | ⟨-, hk⟩
      · obtain rfl := Option.some.inj hj
        exact h.lt_of_missing hsame.symm hmissing
      · exact h.gone k j hk
  | lack | read | draw | make | join | look | rest =>
    exact h.keep rfl rfl (congrArg Stage.net? hg).symm (congrArg Stage.gone? hg).symm

/-! ## Names -/

/-- Names that were drawn and not used are free, and each was drawn by one caller. -/
structure Labelled (s₀ : Daemon) (stage : Nat → Stage) (m : Memory) (names : Nat) : Prop where
  later : s₀.names ≤ names
  fresh : ∀ c ∈ m.containers, ∀ d k, names < k → c.spec.name ≠ d ++ "-" ++ s₀.ending k
  drawn : ∀ j k, (stage j).name? = some k → s₀.names < k ∧ k ≤ names
  free : ∀ j k, (stage j).name? = some k →
    ∀ c ∈ m.containers, ∀ d, c.spec.name ≠ d ++ "-" ++ s₀.ending k
  apart : ∀ j j' k, (stage j).name? = some k → (stage j').name? = some k → j = j'

theorem labelled_start (hs₀ : s₀.Networkless) :
    Labelled s₀ (fun _ => .starting) s₀.memory s₀.names where
  later := Nat.le_refl _
  fresh := hs₀.fresh
  drawn _ _ h := by cases h
  free _ _ h := by cases h
  apart _ _ _ h := by cases h

theorem Labelled.keep (h : Labelled s₀ stage m names)
    (hcontainers : ∀ c' ∈ m'.containers, ∃ c ∈ m.containers, c'.spec = c.spec)
    (hname : g.name? = (stage i).name?) : Labelled s₀ (Function.update stage i g) m' names := by
  refine ⟨h.later, fun c' hc' => ?_, fun j k hj => ?_, fun j k hj c' hc' => ?_, fun j j' k hj hj' => ?_⟩
  · obtain ⟨c, hc, hspec⟩ := hcontainers c' hc'
    rw [hspec]
    exact h.fresh c hc
  · rw [stage_update_eq hname] at hj
    exact h.drawn j k hj
  · rw [stage_update_eq hname] at hj
    obtain ⟨c, hc, hspec⟩ := hcontainers c' hc'
    rw [hspec]
    exact h.free j k hj c hc
  · rw [stage_update_eq hname] at hj hj'
    exact h.apart j j' k hj hj'

theorem Labelled.step (h : Labelled s₀ stage m names) (hs₀ : s₀.Networkless)
    (hgoes : (stage i).Goes s₀.fleet s₀.ending d m names g m' names') :
    Labelled s₀ (Function.update stage i g) m' names' := by
  have same : ∀ c' ∈ m.containers, ∃ c ∈ m.containers, c'.spec = c.spec := fun c hc => ⟨c, hc, rfl⟩
  generalize hg : stage i = before at hgoes
  cases hgoes with
  | draw =>
    have hlater := h.later
    refine ⟨Nat.le_succ_of_le hlater, fun c hc d k hk => h.fresh c hc d k (by omega), fun j k hj => ?_,
      fun j k hj => ?_, fun j j' k hj hj' => ?_⟩
    · rcases stage_update hj with ⟨-, hk⟩ | ⟨-, hj⟩
      · obtain rfl := Option.some.inj hk
        omega
      · have hdrawn := h.drawn j k hj
        omega
    · rcases stage_update hj with ⟨-, hk⟩ | ⟨-, hj⟩
      · obtain rfl := Option.some.inj hk
        exact fun c hc d => h.fresh c hc d _ (Nat.lt_succ_self _)
      · exact h.free j k hj
    · refine stage_update_apart h.apart (fun j k hk hold => ?_) hj hj'
      obtain rfl := Option.some.inj hk
      have hdrawn := h.drawn j _ hold
      omega
  | @make j k env now =>
    have hname : (stage i).name? = some k := by rw [hg]; rfl
    obtain ⟨hlo, hhi⟩ := h.drawn i k hname
    have hothers : ∀ i' k', (Function.update stage i (.made j (m.created + 1)) i').name? = some k' →
        i' ≠ i ∧ (stage i').name? = some k' := fun i' k' hi' =>
      (stage_update hi').resolve_left fun ⟨_, hk⟩ => by cases hk
    have hnew : ∀ c ∈ (m.add now (s₀.fleet.specFor d (d.name ++ "-" ++ s₀.ending k) env)).containers,
        c ∈ m.containers ∨ c.spec.name = d.name ++ "-" ++ s₀.ending k := by
      intro c hc
      rcases List.mem_append.1 hc with hc | hc
      · exact .inl hc
      · obtain rfl := List.mem_singleton.1 hc
        exact .inr rfl
    refine ⟨h.later, fun c hc d' k' hk' => ?_, fun i' k' hi' => h.drawn i' k' (hothers i' k' hi').2,
      fun i' k' hi' c hc d' => ?_, fun i' i'' k' hi' hi'' =>
        h.apart i' i'' k' (hothers i' k' hi').2 (hothers i'' k' hi'').2⟩
    · rcases hnew c hc with hc | hc
      · exact h.fresh c hc d' k' hk'
      · rw [hc]
        exact hs₀.distinct _ _ k k' hlo (by have := h.later; omega) (by omega)
    · obtain ⟨hne, hi'⟩ := hothers i' k' hi'
      rcases hnew c hc with hc | hc
      · exact h.free i' k' hi' c hc d'
      · rw [hc]
        refine hs₀.distinct _ _ k k' hlo (h.drawn i' k' hi').1 ?_
        rintro rfl
        exact hne (h.apart i' i k hi' hname)
  | @join j n =>
    refine h.keep (fun c hc => ?_) (congrArg Stage.name? hg).symm
    have hmild : Mild m (m.update (Memory.numbered "c" n) (Container.joined (Memory.numbered "net" j))) :=
      mild_update fun _ => rfl
    obtain ⟨c', hc', hspec, -⟩ := hmild.containers c hc
    exact ⟨c', hc', hspec⟩
  | find | lack | establish | read | refuse | look | rest =>
    exact h.keep same (congrArg Stage.name? hg).symm

/-! ## Containers -/

/-- Who has a container is the only one who has it, and it is connected as his stage says; what is new in
the engine is somebody's. -/
structure Stocked (s₀ : Daemon) (stage : Nat → Stage) (m : Memory) : Prop where
  later : s₀.memory.created ≤ m.created
  held : ∀ k n, (stage k).container? = some n → s₀.memory.created < n ∧ n ≤ m.created
  linked : ∀ k n, (stage k).container? = some n → ∃ c ∈ m.containers, c.id = Memory.numbered "c" n ∧
    c.container.networkId = (stage k).link?.map (Memory.numbered "net")
  apart : ∀ k k' n, (stage k).container? = some n → (stage k').container? = some n → k = k'
  new : ∀ c ∈ m.containers, c ∈ s₀.memory.containers ∨
    ∃ k n, (stage k).container? = some n ∧ c.id = Memory.numbered "c" n

theorem stocked_start (s₀ : Daemon) : Stocked s₀ (fun _ => .starting) s₀.memory where
  later := Nat.le_refl _
  held _ _ h := by cases h
  linked _ _ h := by cases h
  apart _ _ _ h := by cases h
  new _ hc := .inl hc

theorem Stocked.keep (h : Stocked s₀ stage m) (hcontainers : m'.containers = m.containers)
    (hcreated : m'.created = m.created) (hcontainer : g.container? = (stage i).container?)
    (hlink : g.link? = (stage i).link?) : Stocked s₀ (Function.update stage i g) m' := by
  refine ⟨hcreated ▸ h.later, fun k n hk => ?_, fun k n hk => ?_, fun k k' n hk hk' => ?_, fun c hc => ?_⟩
  · rw [stage_update_eq hcontainer] at hk
    exact hcreated ▸ h.held k n hk
  · rw [stage_update_eq hcontainer] at hk
    rw [stage_update_eq hlink, hcontainers]
    exact h.linked k n hk
  · rw [stage_update_eq hcontainer] at hk hk'
    exact h.apart k k' n hk hk'
  · rw [hcontainers] at hc
    refine (h.new c hc).imp id fun ⟨k, n, hk, hid⟩ => ⟨k, n, ?_, hid⟩
    rw [stage_update_eq hcontainer, hk]

theorem Stocked.step (h : Stocked s₀ stage m) (hs₀ : s₀.Networkless)
    (hgoes : (stage i).Goes s₀.fleet s₀.ending d m names g m' names') :
    Stocked s₀ (Function.update stage i g) m' := by
  generalize hg : stage i = before at hgoes
  cases hgoes with
  | @make j k env now =>
    have hnone : (stage i).container? = none := by rw [hg]; rfl
    have hlater := h.later
    refine ⟨Nat.le_succ_of_le hlater, fun k' n hk => ?_, fun k' n hk => ?_, fun k' k'' n hk hk' => ?_,
      fun c hc => ?_⟩
    · rcases stage_update hk with ⟨-, hn⟩ | ⟨-, hk⟩
      · obtain rfl := Option.some.inj hn
        exact ⟨Nat.lt_succ_of_le hlater, Nat.le_refl _⟩
      · have hheld := h.held k' n hk
        exact ⟨hheld.1, Nat.le_succ_of_le hheld.2⟩
    · rcases stage_update hk with ⟨rfl, hn⟩ | ⟨hne, hk⟩
      · obtain rfl := Option.some.inj hn
        rw [Function.update_self]
        exact ⟨_, List.mem_append_right _ List.mem_cons_self, rfl, rfl⟩
      · obtain ⟨c, hc, hid, hlink⟩ := h.linked k' n hk
        rw [Function.update_of_ne hne]
        exact ⟨c, List.mem_append_left _ hc, hid, hlink⟩
    · refine stage_update_apart h.apart (fun k n hn hold => ?_) hk hk'
      obtain rfl := Option.some.inj hn
      have hheld := h.held k _ hold
      omega
    · rcases List.mem_append.1 hc with hc | hc
      · refine (h.new c hc).imp id fun ⟨k', n, hk, hid⟩ => ⟨k', n, ?_, hid⟩
        exact stage_update_of_none hnone hk
      · obtain rfl := List.mem_singleton.1 hc
        exact .inr ⟨i, m.created + 1, by rw [Function.update_self]; rfl, rfl⟩
  | @join j n =>
    have hcontainer : (Stage.joined j n).container? = (stage i).container? :=
      (congrArg Stage.container? hg).symm
    have hchange : ∀ c : Created, (c.change (Memory.numbered "c" n)
        (Container.joined (Memory.numbered "net" j))).id = c.id := Created.id_change fun _ => rfl
    refine ⟨h.later, fun k n hk => ?_, fun k n' hk => ?_, fun k k' n hk hk' => ?_, fun c hc => ?_⟩
    · rw [stage_update_eq hcontainer] at hk
      exact h.held k n hk
    · rw [Memory.containers_update]
      have hbefore := hk
      rw [stage_update_eq hcontainer] at hbefore
      obtain ⟨c, hc, hid, hlink⟩ := h.linked k n' hbefore
      refine ⟨_, List.mem_map_of_mem hc, (hchange c).trans hid, ?_⟩
      rcases stage_update hk with ⟨rfl, hn⟩ | ⟨hne, -⟩
      · obtain rfl := Option.some.inj hn
        rw [Function.update_self, Created.change, if_pos hid]
        rfl
      · have hother : c.id ≠ Memory.numbered "c" n := by
          rw [hid]
          intro heq
          obtain rfl := Memory.numbered_injective heq
          exact hne (h.apart k i n' hbefore hcontainer.symm)
        rw [Function.update_of_ne hne, Created.change_of_ne hother, hlink]
    · rw [stage_update_eq hcontainer] at hk hk'
      exact h.apart k k' n hk hk'
    · rw [Memory.containers_update] at hc
      obtain ⟨c, hmem, rfl⟩ := List.mem_map.1 hc
      rcases h.new c hmem with hold | ⟨k, n', hk, hid⟩
      · have hother : c.id ≠ Memory.numbered "c" n :=
          hs₀.steady.numbered.fresh c hold n (h.held i n hcontainer.symm).1
        rw [Created.change_of_ne hother]
        exact .inl hold
      · exact .inr ⟨k, n', (stage_update_eq hcontainer k).trans hk, (hchange c).trans hid⟩
  | find | lack | establish | read | draw | refuse | look | rest =>
    exact h.keep rfl rfl (congrArg Stage.container? hg).symm (congrArg Stage.link? hg).symm

end Orchestrator
