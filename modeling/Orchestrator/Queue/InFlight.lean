import Orchestrator.SortedMap

/-!
How many jobs of each deployment are queued or running. Only positive counts are kept, so a
deployment is in the map exactly while a job of it is in flight.
-/
namespace Orchestrator

/-- The number of jobs in flight, by deployment. -/
structure InFlight where
  counts : SortedMap String Nat := ∅
  deriving DecidableEq

namespace InFlight

instance : Inhabited InFlight := ⟨{}⟩

/-- The number of jobs in flight of a deployment. -/
def count (f : InFlight) (scope : String) : Nat := (f.counts.find? scope).getD 0

/-- Is a job of the deployment in flight? -/
def contains (f : InFlight) (scope : String) : Bool := f.counts.contains scope

/-- One more job of a deployment is in flight. -/
def acquire (f : InFlight) (scope : String) : InFlight :=
  ⟨f.counts.insert scope (f.count scope + 1)⟩

/-- One job less of a deployment is in flight; without any, nothing changes. -/
def release (f : InFlight) (scope : String) : InFlight :=
  match f.count scope with
  | 0 => ⟨f.counts.erase scope⟩
  | 1 => ⟨f.counts.erase scope⟩
  | n + 2 => ⟨f.counts.insert scope (n + 1)⟩

theorem count_acquire (f : InFlight) (scope scope' : String) :
    (f.acquire scope').count scope = f.count scope + if scope = scope' then 1 else 0 := by
  by_cases h : scope = scope' <;> simp [count, acquire, SortedMap.find?_insert, h]

theorem count_release (f : InFlight) (scope scope' : String) :
    (f.release scope').count scope = f.count scope - if scope = scope' then 1 else 0 := by
  by_cases h : scope = scope'
  · subst h
    unfold release
    split <;> rename_i h' <;> simp [count, SortedMap.find?_erase, SortedMap.find?_insert] <;>
      simp [count] at h' <;> omega
  · unfold release
    split <;> simp [count, SortedMap.find?_erase, SortedMap.find?_insert, h]

end InFlight

end Orchestrator
