import Orchestrator.Engine.Remote.Report
import Orchestrator.Proofs.SortedMap.Listed

/-!
# Whether the order of a report matters

Labels, ports and networks are reported as maps without an order of their own, and the same map may be
enumerated in one order now and in another one next time. Labels are put into a sorted map and ports are
sorted, so these come out the same. The network is the first one with an identifier, so it may come out as
any network that the container is attached to: `container_reordered`. A container that is attached to two
networks is reported with one or with the other: `networks_exchanged`.
-/
namespace Orchestrator.Engine.Remote

/-! ## The same maps in another order -/

theorem rel_refl {α : Type} {rel : α → α → Prop} (h : ∀ a, rel a a) (a : Option α) : Option.Rel rel a a := by
  cases a with
  | none => exact .none
  | some a => exact .some (h a)

namespace Enumeration

variable {ν : Type} {e e' : Enumeration ν}

/-- The same map, enumerated in any order. -/
def Reordered (e e' : Enumeration ν) : Prop := e.entries.Perm e'.entries

theorem Reordered.refl (e : Enumeration ν) : e.Reordered e := List.Perm.refl _

/-- The map in another order. -/
def reorder (e : Enumeration ν) {l : List (String × ν)} (h : e.entries.Perm l) : Enumeration ν :=
  ⟨l, (h.map Prod.fst).nodup_iff.1 e.distinct⟩

/-- Put in order, the map is the same again. -/
theorem Reordered.sorted_eq (h : e.Reordered e') : e.sorted = e'.sorted := SortedMap.ofList_perm h e.distinct

/-- A map that may be missing is reordered only if it is there. -/
theorem reordered_getD {m m' : Option (Enumeration ν)} (h : Option.Rel Reordered m m') :
    (m.getD ∅).Reordered (m'.getD ∅) := by
  cases h with
  | none => exact Reordered.refl ∅
  | some h => exact h

end Enumeration

namespace Configuration

/-- The same configuration, with its maps in any order. -/
structure Reordered (c c' : Configuration) : Prop where
  labels : Option.Rel Enumeration.Reordered c.labels c'.labels
  exposedPorts : Option.Rel Enumeration.Reordered c.exposedPorts c'.exposedPorts
  command : c.command = c'.command
  entrypoint : c.entrypoint = c'.entrypoint

theorem Reordered.refl (c : Configuration) : c.Reordered c :=
  ⟨rel_refl Enumeration.Reordered.refl _, rel_refl Enumeration.Reordered.refl _, rfl, rfl⟩

theorem reordered_getD {c c' : Option Configuration} (h : Option.Rel Reordered c c') :
    Reordered (c.getD {}) (c'.getD {}) := by
  cases h with
  | none => exact Reordered.refl {}
  | some h => exact h

end Configuration

namespace Report

/-- The same report, with its maps in any order. -/
structure Reordered (r r' : Report) : Prop where
  id : r.id = r'.id
  created : r.created = r'.created
  state : r.state = r'.state
  image : r.image = r'.image
  name : r.name = r'.name
  mounts : r.mounts = r'.mounts
  config : Option.Rel Configuration.Reordered r.config r'.config
  networks : Option.Rel Enumeration.Reordered r.networks r'.networks

theorem Reordered.refl (r : Report) : r.Reordered r :=
  ⟨rfl, rfl, rfl, rfl, rfl, rfl, rel_refl Configuration.Reordered.refl _, rel_refl Enumeration.Reordered.refl _⟩

/-- The identifiers of the networks that the container is attached to. -/
def networkIds (r : Report) : List String := (r.networks.getD ∅).entries.filterMap Prod.snd

variable {r r' : Report}

theorem networkId_container (r : Report) : r.container.networkId = r.networkIds.head? := by
  rw [networkIds, List.head?_filterMap, container]
  cases r.networks with
  | none => rfl
  | some networks => rfl

/-- The networks of a reordered report are the same, in any order. -/
theorem Reordered.perm_networkIds (h : r.Reordered r') : r.networkIds.Perm r'.networkIds :=
  (Enumeration.reordered_getD h.networks).filterMap Prod.snd

/-- All but the network comes out the same. -/
theorem Reordered.container_eq (h : r.Reordered r') :
    { r'.container with networkId := r.container.networkId } = r.container := by
  have hconfig := Configuration.reordered_getD h.config
  have hlabels := (Enumeration.reordered_getD hconfig.labels).sorted_eq
  have hports := (Enumeration.reordered_getD hconfig.exposedPorts).sorted_eq
  simp only [container, h.id, h.created, h.state, h.image, h.name, h.mounts, hlabels, hports, hconfig.command,
    hconfig.entrypoint]

/-- Any network can come first. -/
theorem exists_reordered {id : String} (h : id ∈ r.networkIds) :
    ∃ r', r.Reordered r' ∧ r'.container.networkId = some id := by
  obtain ⟨entry, hentry, hid⟩ := List.mem_filterMap.1 h
  cases hnetworks : r.networks with
  | none =>
    rw [hnetworks] at hentry
    cases hentry
  | some networks =>
    rw [hnetworks] at hentry
    obtain ⟨before, after, hsplit⟩ := List.append_of_mem hentry
    have hperm : networks.entries.Perm (entry :: (before ++ after)) := hsplit ▸ List.perm_middle
    refine ⟨{ r with networks := some (networks.reorder hperm) }, ?_, ?_⟩
    · exact { Reordered.refl r with networks := hnetworks ▸ .some hperm }
    · rw [networkId_container, networkIds]
      exact congrArg List.head? (List.filterMap_cons_some hid)

/-- The networks that may come out are those that the container is attached to. -/
theorem exists_reordered_iff (r : Report) (id : String) :
    (∃ r', r.Reordered r' ∧ r'.container.networkId = some id) ↔ id ∈ r.networkIds := by
  constructor
  · intro ⟨r', hr, hid⟩
    rw [networkId_container] at hid
    exact hr.perm_networkIds.mem_iff.2 (List.mem_of_mem_head? hid)
  · exact exists_reordered

/-- No network comes out only if the container is attached to none. -/
theorem Reordered.networkId_eq_none_iff (h : r.Reordered r') :
    r'.container.networkId = none ↔ r.networkIds = [] := by
  rw [networkId_container, List.head?_eq_none_iff]
  constructor
  · intro hnil
    exact (hnil ▸ h.perm_networkIds).eq_nil
  · intro hnil
    exact (hnil ▸ h.perm_networkIds.symm).eq_nil

/-- The same network comes out if all that the container is attached to have the same identifier. -/
theorem Reordered.networkId_eq (h : r.Reordered r') (hall : ∀ id ∈ r.networkIds, ∀ id' ∈ r.networkIds, id = id') :
    r.container.networkId = r'.container.networkId := by
  have hself := Reordered.refl r
  cases hid' : r'.container.networkId with
  | none => exact hself.networkId_eq_none_iff.2 (h.networkId_eq_none_iff.1 hid')
  | some id' =>
    have hmem' := (exists_reordered_iff r id').1 ⟨r', h, hid'⟩
    cases hid : r.container.networkId with
    | none =>
      rw [hself.networkId_eq_none_iff.1 hid] at hmem'
      cases hmem'
    | some id =>
      have hmem := (exists_reordered_iff r id).1 ⟨r, hself, hid⟩
      exact congrArg some (hall id hmem id' hmem')

/-- **Whether the order of a report matters.** However the maps of a report are enumerated, the container
comes out the same but for its network. The network may come out as each one that the container is attached
to, and as no other; there is none only if the container is attached to none. So the container does not
depend on the order just if all the networks that it is attached to have the same identifier. -/
theorem container_reordered (r : Report) :
    (∀ r', r.Reordered r' → { r'.container with networkId := r.container.networkId } = r.container) ∧
    (∀ id, (∃ r', r.Reordered r' ∧ r'.container.networkId = some id) ↔ id ∈ r.networkIds) ∧
    (∀ r', r.Reordered r' → (r'.container.networkId = none ↔ r.networkIds = [])) ∧
    ((∀ r', r.Reordered r' → r'.container = r.container) ↔
      ∀ id ∈ r.networkIds, ∀ id' ∈ r.networkIds, id = id') := by
  refine ⟨fun r' hr => hr.container_eq, exists_reordered_iff r, fun r' hr => hr.networkId_eq_none_iff, ?_, ?_⟩
  · intro hsame id hid id' hid'
    obtain ⟨r₁, hr₁, hfound₁⟩ := exists_reordered hid
    obtain ⟨r₂, hr₂, hfound₂⟩ := exists_reordered hid'
    rw [hsame r₁ hr₁] at hfound₁
    rw [hsame r₂ hr₂] at hfound₂
    exact Option.some.inj (hfound₁.symm.trans hfound₂)
  · intro hall r' hr
    have heq := hr.container_eq
    rw [hr.networkId_eq hall] at heq
    exact heq

/-- It is on the network that engines start with, and on that of the orchestrator. -/
def attached : Report where
  networks := some ⟨[("bridge", some "b1"), ("hoist", some "h1")], by decide⟩

/-- The same in the other order. -/
def attached' : Report where
  networks := some ⟨[("hoist", some "h1"), ("bridge", some "b1")], by decide⟩

/-- The same report, in the two orders of its networks, gives two containers. -/
theorem networks_exchanged : attached.Reordered attached' ∧ attached.container.networkId = some "b1" ∧
    attached'.container.networkId = some "h1" ∧ attached.container ≠ attached'.container := by
  have hperm : [("bridge", some "b1"), ("hoist", some "h1")].Perm [("hoist", some "h1"), ("bridge", some "b1")] :=
    List.Perm.swap _ _ _
  refine ⟨⟨rfl, rfl, rfl, rfl, rfl, rfl, .none, .some hperm⟩, rfl, rfl, fun heq => ?_⟩
  have hid : some "b1" = some "h1" := congrArg Container.networkId heq
  simp at hid

end Report

end Orchestrator.Engine.Remote
