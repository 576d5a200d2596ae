import Mathlib.Data.List.Nodup
import Orchestrator.Engine.Memory

/-!
# The containers of one deployment in an engine

The engine in memory keeps the containers of all deployments in one list. For a deployment `d` the
list falls into those that carry its label, `owned d`, and the others, `foreign d`. A call about a
container of `d` acts on the first part as on a list of its own (`owned_update`, `owned_add`,
`owned_drop`) and leaves the second as it is.

The reason is `WellNumbered`: identifiers are unique, and those still to be given are unused. Every
call keeps it (`WellNumbered.serve`).
-/
namespace Orchestrator.Engine

namespace Created

/-- The identifier of a container. -/
def id (c : Created) : String := c.container.id

/-- The deployment whose label a container carries. -/
def owner? (c : Created) : Option String := c.container.labels.find? Container.ownerLabel

/-- The container, changed if it has an identifier. -/
def change (id : String) (f : Container → Container) (c : Created) : Created :=
  if c.id = id then { c with container := f c.container } else c

variable {id : String} {f : Container → Container}

theorem change_of_ne {c : Created} (h : c.id ≠ id) : c.change id f = c := if_neg h

@[simp] theorem id_change (hf : ∀ c, (f c).id = c.id) (c : Created) : (c.change id f).id = c.id := by
  unfold change
  split
  · exact hf c.container
  · rfl

@[simp] theorem owner?_change (hf : ∀ c, (f c).labels = c.labels) (c : Created) :
    (c.change id f).owner? = c.owner? := by
  unfold change
  split
  · exact congrArg (SortedMap.find? · Container.ownerLabel) (hf c.container)
  · rfl

end Created

namespace Memory

variable {m : Memory} {d id : String} {f : Container → Container}

/-- The containers that carry the label of a deployment. -/
def owned (d : String) (m : Memory) : List Created := m.containers.filter fun c => c.owner? = some d

/-- The containers that do not carry the label of a deployment. -/
def foreign (d : String) (m : Memory) : List Created :=
  m.containers.filter fun c => c.owner? ≠ some d

theorem mem_owned {c : Created} : c ∈ m.owned d ↔ c ∈ m.containers ∧ c.owner? = some d := by
  simp [owned]

theorem mem_foreign {c : Created} : c ∈ m.foreign d ↔ c ∈ m.containers ∧ c.owner? ≠ some d := by
  simp [foreign]

/-- Two engines that agree on what does not carry one label agree on what carries another. -/
theorem owned_eq_of_foreign_eq {m m' : Memory} {d d' : String} (hne : d ≠ d')
    (h : m'.foreign d = m.foreign d) : m'.owned d' = m.owned d' := by
  have sub : ∀ m : Memory, m.owned d' = (m.foreign d).filter fun c => c.owner? = some d' := by
    intro m
    simp only [owned, foreign, List.filter_filter]
    refine List.filter_congr fun c _ => ?_
    by_cases hc : c.owner? = some d'
    · simp [hc, hne.symm]
    · simp [hc]
  rw [sub m', sub m, h]

theorem labelled_eq_owned (m : Memory) (d : String) :
    m.labelled Container.ownerLabel d = (m.owned d).map Created.container := by
  unfold labelled owned Created.owner?
  rw [List.filter_map]
  rfl

/-! ## Identifiers -/

theorem numbered_injective {word : String} {n k : Nat} (h : numbered word n = numbered word k) :
    n = k := by
  have h' := congrArg String.toList h
  simp only [numbered, String.toList_append, String.toList_ofList, List.append_cancel_left_eq] at h'
  simpa using congrArg Text.ofDecimal h'

/-- Identifiers are unique, and those still to be given are not used yet. -/
structure WellNumbered (m : Memory) : Prop where
  nodup : (m.containers.map Created.id).Nodup
  fresh : ∀ c ∈ m.containers, ∀ n, m.created < n → c.id ≠ numbered "c" n

theorem WellNumbered.eq_of_id_eq (h : m.WellNumbered) {c c' : Created} (hc : c ∈ m.containers)
    (hc' : c' ∈ m.containers) (hid : c.id = c'.id) : c = c' :=
  List.inj_on_of_nodup_map h.nodup hc hc' hid

theorem WellNumbered.find?_eq (h : m.WellNumbered) {c : Created} (hc : c ∈ m.containers) :
    m.find? c.id = some c := by
  unfold find?
  cases hfind : m.containers.find? fun c' => decide (c'.container.id = c.id) with
  | none => simpa [Created.id] using List.find?_eq_none.1 hfind c hc
  | some c' =>
    have hid : c'.id = c.id :=
      of_decide_eq_true (List.find?_some (p := fun c' : Created => decide (c'.id = c.id)) hfind)
    rw [h.eq_of_id_eq (List.mem_of_find?_eq_some hfind) hc hid]

/-- No other deployment's container has the identifier of a container. -/
theorem WellNumbered.ne_of_foreign (h : m.WellNumbered) {c c' : Created} (hc : c ∈ m.owned d)
    (hc' : c' ∈ m.foreign d) : c'.id ≠ c.id := fun hid => by
  rw [mem_owned] at hc
  rw [mem_foreign] at hc'
  exact hc'.2 (h.eq_of_id_eq hc'.1 hc.1 hid ▸ hc.2)

/-! ## Changing a container -/

theorem containers_update (m : Memory) (id : String) (f : Container → Container) :
    (m.update id f).containers = m.containers.map (Created.change id f) := rfl

theorem owned_update (hf : ∀ c, (f c).labels = c.labels) :
    (m.update id f).owned d = (m.owned d).map (Created.change id f) := by
  unfold owned
  rw [containers_update, List.filter_map]
  simp [Function.comp_def, Created.owner?_change hf]

theorem foreign_update (hf : ∀ c, (f c).labels = c.labels) (h : ∀ c ∈ m.foreign d, c.id ≠ id) :
    (m.update id f).foreign d = m.foreign d := by
  have change : (m.update id f).foreign d = (m.foreign d).map (Created.change id f) := by
    unfold foreign
    rw [containers_update, List.filter_map]
    simp [Function.comp_def, Created.owner?_change hf]
  rw [change]
  exact (List.map_congr_left fun c hc => Created.change_of_ne (h c hc)).trans (List.map_id _)

theorem WellNumbered.update (h : m.WellNumbered) (id : String) (hf : ∀ c, (f c).id = c.id) :
    (m.update id f).WellNumbered where
  nodup := by
    rw [containers_update, List.map_map]
    simpa [Function.comp_def, Created.id_change hf] using h.nodup
  fresh c hc n hn := by
    rw [containers_update] at hc
    obtain ⟨c', hc', rfl⟩ := List.mem_map.1 hc
    rw [Created.id_change hf]
    exact h.fresh c' hc' n hn

/-! ## Creating and removing containers -/

/-- The engine with one more container. -/
def add (m : Memory) (now : Instant) (spec : ContainerSpec) : Memory :=
  { m with
    containers := m.containers ++ [⟨spec, newContainer spec (numbered "c" (m.created + 1)) now⟩]
    created := m.created + 1 }

theorem owned_add {now : Instant} {spec : ContainerSpec}
    (h : spec.labels.find? Container.ownerLabel = some d) :
    (m.add now spec).owned d
      = m.owned d ++ [⟨spec, newContainer spec (numbered "c" (m.created + 1)) now⟩] := by
  simp [owned, add, List.filter_append, Created.owner?, newContainer, h]

theorem foreign_add {now : Instant} {spec : ContainerSpec}
    (h : spec.labels.find? Container.ownerLabel = some d) :
    (m.add now spec).foreign d = m.foreign d := by
  simp [foreign, add, List.filter_append, Created.owner?, newContainer, h]

theorem WellNumbered.add {now : Instant} {spec : ContainerSpec} (h : m.WellNumbered) :
    (m.add now spec).WellNumbered where
  nodup := by
    simp only [Memory.add, List.map_append, List.map_cons, List.map_nil]
    refine List.nodup_append.2 ⟨h.nodup, List.nodup_singleton _, fun i hi j hj hij => ?_⟩
    obtain ⟨c, hc, rfl⟩ := List.mem_map.1 hi
    obtain rfl := List.mem_singleton.1 hj
    exact h.fresh c hc _ (Nat.lt_succ_self _) hij
  fresh c hc n hn := by
    simp only [Memory.add] at hc hn
    rcases List.mem_append.1 hc with hc | hc
    · exact h.fresh c hc n (by omega)
    · obtain rfl := List.mem_singleton.1 hc
      intro heq
      have := numbered_injective (heq : numbered "c" (m.created + 1) = numbered "c" n)
      omega

/-- The engine without a container. -/
def drop (m : Memory) (id : String) : Memory :=
  { m with containers := m.containers.filter fun c => c.container.id ≠ id }

theorem owned_drop : (m.drop id).owned d = (m.owned d).filter fun c => c.id ≠ id := by
  simp only [owned, drop, List.filter_filter]
  exact List.filter_congr fun c _ => Bool.and_comm ..

theorem foreign_drop (h : ∀ c ∈ m.foreign d, c.id ≠ id) : (m.drop id).foreign d = m.foreign d := by
  have swap : (m.drop id).foreign d = (m.foreign d).filter fun c => c.id ≠ id := by
    simp only [foreign, drop, List.filter_filter]
    exact List.filter_congr fun c _ => Bool.and_comm ..
  rw [swap, List.filter_eq_self]
  exact fun c hc => by simpa using h c hc

theorem WellNumbered.drop (h : m.WellNumbered) : (m.drop id).WellNumbered where
  nodup := h.nodup.sublist (List.Sublist.map _ List.filter_sublist)
  fresh c hc := h.fresh c (List.mem_filter.1 hc).1

/-! ## Every call -/

theorem WellNumbered.serve (h : m.WellNumbered) (now : Instant) (call : Call) :
    (m.serve now call).2.WellNumbered := by
  cases call with
  | pull reference => unfold Memory.serve pull; dsimp only; split <;> exact ⟨h.nodup, h.fresh⟩
  | create spec =>
    unfold Memory.serve create
    dsimp only
    split
    · exact ⟨h.nodup, h.fresh⟩
    · split
      · exact h
      · exact h.add
  | start id =>
    unfold Memory.serve start
    dsimp only
    split
    · exact h
    · exact h.update (f := fun c => { c with state := m.startState }) id fun _ => rfl
  | stop id =>
    unfold Memory.serve stop
    dsimp only
    split
    · exact h
    · exact h.update (f := fun c => { c with state := .exited }) id fun _ => rfl
  | remove id force =>
    unfold Memory.serve remove
    dsimp only
    split
    · exact h
    · split
      · exact h
      · exact h.drop
  | list label value => exact h
  | inspect id => exact ⟨h.nodup, h.fresh⟩
  | network name => exact h
  | createNetwork name => exact ⟨h.nodup, h.fresh⟩
  | connect network container =>
    unfold Memory.serve connect
    dsimp only
    split
    · split
      · exact h
      · exact h.update (f := fun c => { c with networkId := some network }) container fun _ => rfl
    · exact h

end Memory

end Orchestrator.Engine
