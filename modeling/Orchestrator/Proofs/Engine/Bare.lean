import Orchestrator.Engine.Faults

/-!
# Environments are kept and never looked at

An engine in memory keeps the environment that a container is created with, and nothing it does depends
on it. An engine without its environments, and without its log, is its `bare` form: every call is answered
by the bare form as by the engine itself, and leaves the bare form of what the call leaves of the engine.
So engines with one bare form cannot be told apart by calls: `FaultyEngine.serve_alike`,
`FaultyEngine.create_alike`.
-/
namespace Orchestrator.Engine

/-- What a container is created from, but for its environment. -/
def ContainerSpec.bare (s : ContainerSpec) : ContainerSpec := { s with env := [] }

/-- A container that keeps nothing of its environment. -/
def Created.bare (c : Created) : Created := { c with spec := c.spec.bare }

@[simp] theorem Created.container_bare (c : Created) : c.bare.container = c.container := rfl

@[simp] theorem Created.bare_bare (c : Created) : c.bare.bare = c.bare := rfl

namespace Memory

/-- The engine without the environments of its containers. -/
def bare (m : Memory) : Memory := { m with containers := m.containers.map Created.bare }

variable (m : Memory) (now : Instant) (container : String)

@[simp] theorem bare_bare : m.bare.bare = m.bare := by simp [bare, Function.comp_def]

theorem find?_bare : m.bare.find? container = (m.find? container).map Created.bare := by
  rw [find?, bare, List.find?_map]
  rfl

theorem labelled_bare (label value : String) : m.bare.labelled label value = m.labelled label value := by
  rw [labelled, bare, List.map_map]
  rfl

theorem update_bare (f : Container → Container) : m.bare.update container f = (m.update container f).bare := by
  simp only [update, bare, List.map_map]
  congr 1
  refine List.map_congr_left fun c _ => ?_
  rw [Function.comp_apply, Function.comp_apply, Created.container_bare]
  by_cases h : c.container.id = container
  · rw [if_pos h, if_pos h]
    rfl
  · rw [if_neg h, if_neg h]

theorem remove_bare (force : Bool) :
    m.bare.remove container force = Prod.map id bare (m.remove container force) := by
  have kept : (m.bare.containers.filter fun c => c.container.id ≠ container)
      = (m.containers.filter fun c => c.container.id ≠ container).map Created.bare := List.filter_map
  unfold remove
  rw [find?_bare, kept]
  cases m.find? container with
  | none => rfl
  | some c =>
    dsimp only
    rw [apply_ite (Prod.map _ bare)]
    rfl

theorem create_bare (spec : ContainerSpec) :
    m.bare.create now spec.bare = Prod.map id bare (m.create now spec) := by
  have taken : (m.bare.containers.any fun c => c.spec.name = spec.bare.name)
      = m.containers.any fun c => c.spec.name = spec.name := List.any_map
  have made (c : Created) :
      bare { m with containers := m.containers ++ [c], created := m.created + 1 }
        = { m.bare with containers := m.bare.containers ++ [c.bare], created := m.created + 1 } := by
    rw [bare, List.map_append]
    rfl
  unfold create
  rw [taken, apply_ite (Prod.map _ bare), apply_ite (Prod.map _ bare)]
  dsimp only [Prod.map_apply]
  rw [made]
  rfl

/-- Any other call reads the engine through its bare form. -/
theorem serve_bare {call : Call} (hcall : call.kind ≠ .create) :
    m.bare.serve now call = Prod.map id bare (m.serve now call) := by
  cases call with
  | pull reference =>
    rw [serve, serve, pull, pull, apply_ite (Prod.map _ bare)]
    rfl
  | create spec => exact absurd rfl hcall
  | start id =>
    rw [serve, serve, start, start, find?_bare]
    cases m.find? id with
    | none => rfl
    | some c => exact congrArg (Prod.mk _) (m.update_bare id _)
  | stop id grace =>
    rw [serve, serve, stop, stop, find?_bare]
    cases m.find? id with
    | none => rfl
    | some c => exact congrArg (Prod.mk _) (m.update_bare id _)
  | remove id force => exact m.remove_bare id force
  | list label value => exact congrArg (fun found => (Except.ok found, m.bare)) (m.labelled_bare label value)
  | inspect id =>
    rw [serve, serve, inspect, inspect, find?_bare]
    cases m.find? id <;> rfl
  | network name => rfl
  | createNetwork name => rfl
  | connect network container =>
    rw [serve, serve, connect, connect, find?_bare, apply_ite (Prod.map _ bare)]
    cases m.find? container with
    | none => rfl
    | some c =>
      dsimp only [Option.map_some]
      rw [m.update_bare]
      rfl

end Memory

namespace FaultyEngine

/-- The engine without the environments of its containers, and with an empty log. -/
def bare (e : FaultyEngine) : FaultyEngine := { e with memory := e.memory.bare, log := [] }

variable {e e' : FaultyEngine}

theorem bare_eq_iff : e.bare = e'.bare ↔ e.memory.bare = e'.memory.bare ∧ e.faults = e'.faults := by
  simp [bare]

theorem serve_bare (e : FaultyEngine) (now : Instant) {call : Call} (hcall : call.kind ≠ .create) :
    (e.bare.serve now call).1 = (e.serve now call).1 ∧
      (e.bare.serve now call).2.bare = (e.serve now call).2.bare := by
  have hserved := e.memory.serve_bare now hcall
  unfold serve
  dsimp only [bare]
  rcases useFault call.kind e.faults with ⟨(_ | error | text), faults⟩
  · dsimp only
    rw [hserved]
    exact ⟨rfl, by simp [noted]⟩
  · exact ⟨rfl, by simp [noted]⟩
  · exact ⟨rfl, by simp⟩

theorem create_bare (e : FaultyEngine) (now : Instant) (spec : ContainerSpec) :
    (e.bare.serve now (.create spec.bare)).1 = (e.serve now (.create spec)).1 ∧
      (e.bare.serve now (.create spec.bare)).2.bare = (e.serve now (.create spec)).2.bare := by
  have hserved := e.memory.create_bare now spec
  unfold serve
  dsimp only [bare, Call.kind]
  rcases useFault .create e.faults with ⟨(_ | error | text), faults⟩
  · dsimp only [Memory.serve]
    rw [hserved]
    exact ⟨rfl, by simp [noted]⟩
  · exact ⟨rfl, by simp [noted]⟩
  · exact ⟨rfl, by simp⟩

/-- Engines with one bare form that are to create containers which differ in their environments only
answer alike, and still have one bare form after it. -/
theorem create_alike (h : e.bare = e'.bare) (now : Instant) {spec spec' : ContainerSpec}
    (hspec : spec.bare = spec'.bare) :
    (e.serve now (.create spec)).1 = (e'.serve now (.create spec')).1 ∧
      (e.serve now (.create spec)).2.bare = (e'.serve now (.create spec')).2.bare := by
  rw [← (e.create_bare now spec).1, ← (e.create_bare now spec).2, h, hspec]
  exact e'.create_bare now spec'

/-- So they do when they are to serve the same call. -/
theorem serve_alike (h : e.bare = e'.bare) (now : Instant) (call : Call) :
    (e.serve now call).1 = (e'.serve now call).1 ∧
      (e.serve now call).2.bare = (e'.serve now call).2.bare := by
  by_cases hcall : call.kind = .create
  · cases call with
    | create spec => exact create_alike h now rfl
    | _ => cases hcall
  · rw [← (e.serve_bare now hcall).1, ← (e.serve_bare now hcall).2, h]
    exact e'.serve_bare now hcall

end FaultyEngine

end Orchestrator.Engine
