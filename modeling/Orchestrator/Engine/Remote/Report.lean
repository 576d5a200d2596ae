import Orchestrator.Container

/-!
What an engine reports of a container, and how the container is taken from it. Labels, exposed ports and
networks come as maps that have no order of their own.
-/
namespace Orchestrator.Engine.Remote

/-! ## Maps without an order -/

/-- The entries of which no later one has the same key. -/
def lastEntries {ν : Type} : List (String × ν) → List (String × ν)
  | [] => []
  | e :: rest =>
    if rest.any fun e' => e'.1 = e.1 then lastEntries rest else e :: lastEntries rest

theorem lastEntries_sublist {ν : Type} (l : List (String × ν)) : (lastEntries l).Sublist l := by
  induction l with
  | nil => exact .slnil
  | cons e rest ih =>
    rw [lastEntries]
    split
    · exact ih.cons e
    · exact ih.cons_cons e

theorem nodup_lastEntries {ν : Type} (l : List (String × ν)) : ((lastEntries l).map Prod.fst).Nodup := by
  induction l with
  | nil => exact List.nodup_nil
  | cons e rest ih =>
    rw [lastEntries]
    by_cases hlater : (rest.any fun e' => e'.1 = e.1) = true
    · rw [if_pos hlater]
      exact ih
    · rw [if_neg hlater, List.map_cons, List.nodup_cons]
      refine ⟨fun hmem => hlater ?_, ih⟩
      obtain ⟨e', he', hkey⟩ := List.mem_map.1 hmem
      exact List.any_eq_true.2 ⟨e', (lastEntries_sublist rest).subset he', decide_eq_true hkey⟩

/-- A map without an order of its own: its entries as they happen to be enumerated. -/
structure Enumeration (ν : Type) where
  entries : List (String × ν)
  distinct : (entries.map Prod.fst).Nodup

namespace Enumeration

variable {ν : Type}

instance : EmptyCollection (Enumeration ν) := ⟨⟨[], List.nodup_nil⟩⟩

/-- The map with some entries; of two with the same key the later one stays. -/
def ofEntries (l : List (String × ν)) : Enumeration ν := ⟨lastEntries l, nodup_lastEntries l⟩

/-- The map in the order of its keys. -/
def sorted (e : Enumeration ν) : SortedMap String ν := SortedMap.ofList e.entries

end Enumeration

/-! ## Containers -/

/-- The state of a container, as it is reported. -/
structure ReportedState where
  /-- The life-cycle state; some engines report an empty one, which is none. -/
  status : Option ContainerState := none
  /-- Was the container killed for memory? -/
  oomKilled : Option Bool := none

/-- What a container was configured with. -/
structure Configuration where
  labels : Option (Enumeration String) := none
  exposedPorts : Option (Enumeration Unit) := none
  command : Option (List String) := none
  entrypoint : Option (List String) := none

/-- What an engine reports of a container. -/
structure Report where
  id : Option String := none
  created : Option String := none
  state : Option ReportedState := none
  image : Option String := none
  name : Option String := none
  /-- The places where something is mounted. -/
  mounts : Option (List (Option String)) := none
  config : Option Configuration := none
  /-- The identifiers of the networks that the container is attached to, under their names. -/
  networks : Option (Enumeration (Option String)) := none

/-- The state of a container: created unless something is reported, and killed for memory where
that is reported of a container that does not run. -/
def ReportedState.state (r : ReportedState) : ContainerState :=
  let status := r.status.getD .created
  if r.oomKilled = some true ∧ status ≠ .running then .oomKilled else status

/-- The container that is reported. It is attached to the first network with an identifier, and its ports
are in order. -/
def Report.container (r : Report) : Container :=
  let config := r.config.getD {}
  let labels := (config.labels.getD ∅).sorted
  let name := r.name.getD ""
  { id := r.id.getD ""
    name := String.ofList (name.toList.dropWhile (· = '/'))
    deployment := (labels.find? Container.ownerLabel).getD ""
    networkId := r.networks.bind fun networks => networks.entries.findSome? Prod.snd
    imageId := r.image.getD ""
    createdAt := r.created.bind Instant.ofTimestamp?
    state := (r.state.map ReportedState.state).getD .created
    ports := (config.exposedPorts.getD ∅).sorted.keys
    volumes := (r.mounts.getD []).filterMap fun place => place
    command := config.command.getD []
    entrypoint := config.entrypoint.getD []
    labels := labels }

end Orchestrator.Engine.Remote
