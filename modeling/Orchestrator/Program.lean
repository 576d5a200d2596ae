import Orchestrator.Engine.Call
import Orchestrator.Event.Basic
import Orchestrator.Job.Error
import Orchestrator.Secret
import Orchestrator.Store.Basic

/-!
Programs: what the orchestrator does outside its own memory, as trees of requests. A program asks
for one thing at a time and goes on with the answer, so it can be run against any engine, stopped
between any two requests, and interleaved with other programs.

`run` answers every request from a state. Main statement: `run_bind`, running one program after
another is running them in turn.
-/
namespace Orchestrator

/-- What a program may ask for. -/
inductive Request where
  /-- A call to the container engine. -/
  | engine (call : Engine.Call)
  /-- The secret of a deployment under a key. -/
  | secret (deployment key : String)
  /-- An ending that no container's name had before. -/
  | suffix
  /-- That a number of milliseconds go by. -/
  | pause (milliseconds : Nat)
  /-- That the followers of a deployment are told of an event. -/
  | announce (deployment : String) (event : Event)
  /-- Whether a job of a deployment is queued or running. -/
  | isBusy (deployment : String)
  /-- That a job rolling a deployment out is queued, if there is a free slot. -/
  | offer (config : Deployment) (attempts : UInt32)

/-- What a request is answered with. -/
abbrev Request.Answer : Request → Type
  | .engine call => call.Reply
  | .secret .. => Except StoreError Secret
  | .suffix => String
  | .pause _ => Unit
  | .announce .. => Unit
  | .isBusy _ => Bool
  | .offer .. => Except JobError Uuid

/-- A program with a result of type `α`. -/
inductive Program (α : Type) where
  | done (a : α)
  | ask (request : Request) (next : request.Answer → Program α)

namespace Program

variable {α β σ : Type}

/-- One program and then another that depends on its result. -/
def bind : Program α → (α → Program β) → Program β
  | .done a, f => f a
  | .ask r next, f => .ask r fun answer => (next answer).bind f

instance : Monad Program where
  pure := .done
  bind := bind

@[simp] theorem done_bind (a : α) (f : α → Program β) : (Program.done a >>= f) = f a := rfl

@[simp] theorem ask_bind (r : Request) (next : r.Answer → Program α) (f : α → Program β) :
    (Program.ask r next >>= f) = .ask r fun answer => next answer >>= f := rfl

theorem map_done (p : Program α) : (fun a => a) <$> p = p := by
  change p.bind .done = p
  induction p with
  | done a => rfl
  | ask r next ih => simp [bind, ih]

theorem bind_bind {γ : Type} (p : Program α) (f : α → Program β) (g : β → Program γ) :
    (p >>= f >>= g) = p >>= fun a => f a >>= g := by
  induction p with
  | done a => rfl
  | ask r next ih => simp [ih]

instance : LawfulMonad Program :=
  LawfulMonad.mk' Program map_done (fun _ _ => rfl) bind_bind

/-- Asks for one thing. -/
def request (r : Request) : Program r.Answer := .ask r .done

/-- Runs a program, answering every request from a state. -/
def run (serve : (r : Request) → σ → r.Answer × σ) : Program α → σ → α × σ
  | .done a, s => (a, s)
  | .ask r next, s =>
    let (answer, s) := serve r s
    (next answer).run serve s

theorem run_bind (serve : (r : Request) → σ → r.Answer × σ) (p : Program α) (f : α → Program β)
    (s : σ) :
    (p >>= f).run serve s = (f (p.run serve s).1).run serve (p.run serve s).2 := by
  induction p generalizing s with
  | done a => rfl
  | ask r next ih => simp [run, ih]

end Program

/-- A program that may fail. -/
abbrev Task (ε α : Type) := ExceptT (Failure ε) Program α

namespace Task

variable {ε δ α : Type}

/-- A request as a step of a task. -/
def ask (r : Request) : Task ε r.Answer := ExceptT.lift (Program.request r)

/-- A task that fails with an error. -/
def fail (e : ε) : Task ε α := ExceptT.mk (.done (.error (.error e)))

/-- A task that panics. -/
def panic (text : String) : Task ε α := ExceptT.mk (.done (.error (.panic (some text))))

/-- The task with its errors replaced by their images. -/
def mapError (f : ε → δ) (t : Task ε α) : Task δ α :=
  ExceptT.mk ((fun r => r.mapError (Failure.map f)) <$> t.run)

/-- A call to the engine. -/
def call (c : Engine.Call) : Task Engine.EngineError c.Value := ExceptT.mk (.request (.engine c))

end Task

end Orchestrator
