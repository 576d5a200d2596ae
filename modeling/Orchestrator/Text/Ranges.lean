/-!
Sets of characters given by ranges of code points.
-/
namespace Orchestrator.Text

/-- A set of code points, as inclusive ranges in increasing order. -/
abbrev Ranges := Array (Nat × Nat)

/-- Is the character in one of the ranges? -/
def Ranges.has (ranges : Ranges) (c : Char) : Bool :=
  ranges.any fun range => range.1 ≤ c.toNat && c.toNat ≤ range.2

end Orchestrator.Text
