import Orchestrator.Failure

/-!
Workflows: named steps that run in order over one value. The first step that does not succeed ends
the workflow, and the value stays as that step left it. An observer is told of every step before it
runs.
-/
namespace Orchestrator

/-- A named step over a value of type `σ`. -/
structure Step (m : Type → Type) (ε σ : Type) where
  name : String
  action : σ → m (Except (Failure ε) Unit × σ)

/-- Named steps, run in order. -/
structure Workflow (m : Type → Type) (ε σ : Type) where
  name : String
  steps : List (Step m ε σ)

/-- How a workflow ends when it does not succeed. -/
inductive StepError (ε : Type) where
  | failed (workflow step : String) (cause : ε)
  | panicked (workflow step message : String)
  deriving DecidableEq, Repr

namespace StepError

variable {ε δ : Type}

/-- The step that ended the workflow. -/
def step : StepError ε → String
  | .failed _ step _ => step
  | .panicked _ step _ => step

/-- The error with its cause replaced by its image. -/
def map (f : ε → δ) : StepError ε → StepError δ
  | .failed workflow step cause => .failed workflow step (f cause)
  | .panicked workflow step message => .panicked workflow step message

def message (say : ε → String) : StepError ε → String
  | .failed workflow step cause =>
    "workflow " ++ workflow ++ ": step " ++ step ++ " failed: " ++ say cause
  | .panicked workflow step message =>
    "workflow " ++ workflow ++ ": step " ++ step ++ " panicked: " ++ message

/-- The error that a step's failure ends its workflow with. -/
def ofFailure (workflow step : String) : Failure ε → StepError ε
  | .error cause => .failed workflow step cause
  | .panic text => .panicked workflow step (Failure.panicMessage text)

end StepError

namespace Workflow

variable {m : Type → Type} [Monad m] {ε σ : Type}

def stepNames (w : Workflow m ε σ) : List String := w.steps.map Step.name

/-- A workflow without steps. -/
def new (name : String) : Workflow m ε σ := ⟨name, []⟩

/-- The workflow with one more step at its end. -/
def add (w : Workflow m ε σ) (step : Step m ε σ) : Workflow m ε σ :=
  { w with steps := w.steps ++ [step] }

/-- Runs steps in order until one does not succeed. -/
def runSteps (workflow : String) (observe : String → m Unit) :
    List (Step m ε σ) → σ → m (Except (StepError ε) Unit × σ)
  | [], s => pure (.ok (), s)
  | step :: rest, s => do
    observe step.name
    let (outcome, s) ← step.action s
    match outcome with
    | .ok () => runSteps workflow observe rest s
    | .error f => pure (.error (.ofFailure workflow step.name f), s)

/-- Runs a workflow, telling the observer of each step. -/
def runObserved (w : Workflow m ε σ) (observe : String → m Unit) (s : σ) :
    m (Except (StepError ε) Unit × σ) :=
  runSteps w.name observe w.steps s

/-- Runs a workflow that nobody observes. -/
def run (w : Workflow m ε σ) (s : σ) : m (Except (StepError ε) Unit × σ) :=
  w.runObserved (fun _ => pure ()) s

end Workflow

end Orchestrator
