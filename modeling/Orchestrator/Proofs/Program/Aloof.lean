import Orchestrator.Proofs.Program.Composed

/-!
# Programs that keep away from the queue

The programs of rollouts and teardowns ask nothing of the queue, whatever they are answered: an attempt
of a job never queues another. Programs that do not are put together of such programs
(`aloof_composed`); the main statement is `Job.aloof_attempt`.
-/
namespace Orchestrator

/-- Does a request concern the queue? -/
def Request.concernsQueue : Request → Bool
  | .isBusy _ | .offer .. => true
  | _ => false

/-- Everything may be asked that does not concern the queue, and answered in any way. -/
def Setting.aloof : Setting Unit := ⟨fun r _ => r.concernsQueue = false, fun _ _ _ _ => True⟩

namespace Program

variable {α : Type}

/-- However it is answered, the program asks nothing of the queue. -/
def Aloof (p : Program α) : Prop := p.Meets .aloof (fun _ _ => True) ()

theorem aloof_request {r : Request} (h : r.concernsQueue = false) : (Program.request r).Aloof :=
  ⟨h, fun _ _ _ => trivial⟩

theorem aloof_plain {r : Request} (h : r.isPlain = true) : (Program.request r).Aloof :=
  aloof_request (by cases r <;> first | rfl | cases h)

theorem aloof_closed : Closed Aloof where
  done _ := trivial
  bind hp hf := meets_bind.2 (hp.mono fun a _ _ => hf a)

/-- What holds of every result holds at the end of an aloof program. -/
theorem Aloof.meets {p : Program α} {post : α → Unit → Prop} (hp : p.Aloof) (h : ∀ a, post a ()) :
    p.Meets .aloof post () :=
  hp.mono fun a _ _ => h a

end Program

/-! ## Creating a container -/

namespace Fleet

open Program

theorem aloof_create (f : Fleet) (d : Deployment) : (f.create d).run.Aloof :=
  aloof_closed.create (fun {r} h => aloof_request (by cases r <;> first | rfl | cases h)) f d

end Fleet

/-! ## Attempts -/

theorem Program.aloof_composed : Program.Composed Program.Aloof where
  toClosed := aloof_closed
  request := aloof_plain
  create := Fleet.aloof_create

/-- What a job is known by, whatever becomes of it. -/
def Job.key (j : Job) : Uuid × String := (j.id, j.scope)

/-- An attempt asks nothing of the queue, and leaves its job the same one. -/
theorem Job.aloof_attempt (f : Fleet) (j : Job) :
    (j.attempt f).Meets .aloof (fun r _ => r.2.key = j.key) () := by
  have announced : ∀ step, (j.announceStep step).Aloof := fun _ => Program.aloof_request rfl
  unfold Job.attempt
  cases j.work with
  | create config current new =>
    exact Program.meets_bind.2 ((Program.aloof_composed.runSteps _ announced
      (Program.aloof_composed.rollout f) _).meets fun _ => rfl)
  | delete config current =>
    exact Program.meets_bind.2 ((Program.aloof_composed.runSteps _ announced
      Program.aloof_composed.teardown _).meets fun _ => rfl)

end Orchestrator
