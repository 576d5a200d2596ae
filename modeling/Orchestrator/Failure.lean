/-!
How an action goes wrong: with an error that its caller may look at, or with a panic, which only
the steps of a workflow and the tasks of a program contain.
-/
namespace Orchestrator

/-- What an action ends with when it does not succeed. -/
inductive Failure (ε : Type) where
  | error (e : ε)
  /-- A panic, with its text if it has one. -/
  | panic (text : Option String)
  deriving DecidableEq, Repr

namespace Failure

/-- The failure with its error replaced by its image. -/
def map {ε δ : Type} (f : ε → δ) : Failure ε → Failure δ
  | .error e => .error (f e)
  | .panic text => .panic text

/-- What is said of a panic. -/
def panicMessage (text : Option String) : String := text.getD "unknown panic"

end Failure

end Orchestrator
