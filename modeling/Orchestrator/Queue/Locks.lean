import Orchestrator.SortedMap

/-!
One lock for each deployment. Those who want it stand in line, and the first in the line holds it.
-/
namespace Orchestrator

/-- The lines for the locks of deployments. -/
structure Locks where
  lines : SortedMap String (List Nat) := ∅
  deriving DecidableEq

namespace Locks

instance : Inhabited Locks := ⟨{}⟩

/-- The line for a lock. -/
def line (l : Locks) (scope : String) : List Nat := (l.lines.find? scope).getD []

/-- Stands in line for a lock. -/
def join (l : Locks) (scope : String) (who : Nat) : Locks :=
  ⟨l.lines.insert scope (l.line scope ++ [who])⟩

/-- Does somebody hold a lock? -/
def isHeldBy (l : Locks) (scope : String) (who : Nat) : Bool := (l.line scope).head? = some who

/-- Leaves the line for a lock, or gives the lock up. -/
def leave (l : Locks) (scope : String) (who : Nat) : Locks :=
  ⟨l.lines.insert scope ((l.line scope).erase who)⟩

theorem line_join (l : Locks) (scope scope' : String) (who : Nat) :
    (l.join scope' who).line scope
      = if scope = scope' then l.line scope ++ [who] else l.line scope := by
  by_cases h : scope = scope' <;> simp [line, join, SortedMap.find?_insert, h]

theorem line_leave (l : Locks) (scope scope' : String) (who : Nat) :
    (l.leave scope' who).line scope
      = if scope = scope' then (l.line scope).erase who else l.line scope := by
  by_cases h : scope = scope' <;> simp [line, leave, SortedMap.find?_insert, h]

end Locks

end Orchestrator
