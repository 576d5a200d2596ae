import Orchestrator.Job.Attempt

/-!
# What programs do in a setting

A setting says which requests may be made in a state and how each may be answered there.
`p.Meets w post s` says that, run from `s` in the setting `w`, the program `p` only makes requests
that are allowed, however they are answered, and ends only where `post` holds.

There is one rule for each way in which programs are put together: `meets_bind` for programs,
`Task.meets_bind` for tasks that may fail, `StepAction.meets_bind` and `StepAction.meets_forM` for
the steps of workflows, and `Workflow.meets_runSteps_cons` for workflows.
-/
namespace Orchestrator

/-- Which requests may be made, and how they may be answered. -/
structure Setting (σ : Type) where
  allowed : Request → σ → Prop
  /-- May a request in a state be answered with a value, leaving another state? -/
  answers : (r : Request) → σ → r.Answer → σ → Prop

namespace Program

variable {σ α β : Type} {w : Setting σ}

/-- Whatever the answers, only allowed requests are made, and `post` holds at the end. -/
def Meets (w : Setting σ) (post : α → σ → Prop) : Program α → σ → Prop
  | .done a, s => post a s
  | .ask r next, s => w.allowed r s ∧ ∀ a t, w.answers r s a t → (next a).Meets w post t

@[simp] theorem meets_done {post : α → σ → Prop} {a : α} {s : σ} :
    (Program.done a).Meets w post s ↔ post a s := Iff.rfl

@[simp] theorem meets_pure {post : α → σ → Prop} {a : α} {s : σ} :
    (pure a : Program α).Meets w post s ↔ post a s := Iff.rfl

@[simp] theorem meets_request {r : Request} {post : r.Answer → σ → Prop} {s : σ} :
    (Program.request r).Meets w post s
      ↔ w.allowed r s ∧ ∀ a t, w.answers r s a t → post a t := Iff.rfl

theorem meets_bind {p : Program α} {f : α → Program β} {post : β → σ → Prop} {s : σ} :
    (p >>= f).Meets w post s ↔ p.Meets w (fun a t => (f a).Meets w post t) s := by
  induction p generalizing s with
  | done a => rfl
  | ask r next ih => exact and_congr_right' (forall₃_congr fun a t _ => ih a)

theorem meets_map {p : Program α} {f : α → β} {post : β → σ → Prop} {s : σ} :
    (f <$> p).Meets w post s ↔ p.Meets w (fun a t => post (f a) t) s := by
  rw [map_eq_pure_bind, meets_bind]
  rfl

theorem Meets.mono {p : Program α} {post post' : α → σ → Prop} {s : σ} (h : p.Meets w post s)
    (hpost : ∀ a t, post a t → post' a t) : p.Meets w post' s := by
  induction p generalizing s with
  | done a => exact hpost a s h
  | ask r next ih => exact ⟨h.1, fun a t ha => ih a (h.2 a t ha)⟩

/-- What holds in every setting of a kind holds in one with fewer answers and more leave. -/
theorem Meets.setting {w' : Setting σ} {p : Program α} {post : α → σ → Prop} {s : σ}
    (h : p.Meets w post s) (hallowed : ∀ r t, w.allowed r t → w'.allowed r t)
    (hanswers : ∀ r t a u, w'.answers r t a u → w.answers r t a u) : p.Meets w' post s := by
  induction p generalizing s with
  | done a => exact h
  | ask r next ih =>
    exact ⟨hallowed r s h.1, fun a t ha => ih a (h.2 a t (hanswers r s a t ha))⟩

/-- Running a program answers it in one of the ways its setting allows. -/
theorem Meets.run {p : Program α} {post : α → σ → Prop} {s : σ}
    {serve : (r : Request) → σ → r.Answer × σ} (h : p.Meets w post s)
    (hserve : ∀ r t, w.answers r t (serve r t).1 (serve r t).2) :
    post (p.run serve s).1 (p.run serve s).2 := by
  induction p generalizing s with
  | done a => exact h
  | ask r next ih => exact ih _ (h.2 _ _ (hserve r s))

end Program

/-- A condition on the end of an action, by whether it succeeds. -/
def ending {σ ε α : Type} (good : α → σ → Prop) (bad : ε → σ → Prop) : Except ε α → σ → Prop
  | .ok a => good a
  | .error e => bad e

@[simp] theorem ending_ok {σ ε α : Type} {good : α → σ → Prop} {bad : ε → σ → Prop} {a : α}
    {s : σ} : ending good bad (.ok a) s ↔ good a s := Iff.rfl

@[simp] theorem ending_error {σ ε α : Type} {good : α → σ → Prop} {bad : ε → σ → Prop} {e : ε}
    {s : σ} : ending good bad (.error e) s ↔ bad e s := Iff.rfl

/-! ## Tasks -/

namespace Task

variable {σ ε δ α β : Type} {w : Setting σ}

/-- The program of a task ends in `good` with a value, and in `bad` with a failure. -/
def Meets (w : Setting σ) (good : α → σ → Prop) (bad : Failure ε → σ → Prop) (t : Task ε α)
    (s : σ) : Prop :=
  Program.Meets w (ending good bad) t.run s

variable {good : β → σ → Prop} {bad : Failure ε → σ → Prop} {s : σ}

@[simp] theorem meets_pure {b : β} : (pure b : Task ε β).Meets w good bad s ↔ good b s := Iff.rfl

@[simp] theorem meets_fail {e : ε} :
    (Task.fail e : Task ε β).Meets w good bad s ↔ bad (.error e) s := Iff.rfl

@[simp] theorem meets_panic {text : String} :
    (Task.panic text : Task ε β).Meets w good bad s ↔ bad (.panic (some text)) s := Iff.rfl

theorem meets_bind {t : Task ε α} {f : α → Task ε β} :
    (t >>= f).Meets w good bad s ↔ t.Meets w (fun a u => (f a).Meets w good bad u) bad s := by
  unfold Meets
  rw [ExceptT.run_bind, Program.meets_bind]
  refine iff_of_eq (congrArg (fun post => Program.Meets w post t.run s) ?_)
  funext r u
  cases r <;> rfl

theorem meets_map {t : Task ε α} {f : α → β} :
    (f <$> t).Meets w good bad s ↔ t.Meets w (fun a u => good (f a) u) bad s := by
  rw [map_eq_pure_bind, meets_bind]
  rfl

@[simp] theorem meets_ask {r : Request} {good : r.Answer → σ → Prop} :
    (Task.ask r : Task ε r.Answer).Meets w good bad s
      ↔ w.allowed r s ∧ ∀ a t, w.answers r s a t → good a t := Iff.rfl

theorem meets_mapError {f : ε → δ} {t : Task ε β} {bad : Failure δ → σ → Prop} :
    (t.mapError f).Meets w good bad s ↔ t.Meets w good (fun e u => bad (e.map f) u) s := by
  unfold Meets mapError
  rw [ExceptT.run_mk, Program.meets_map]
  refine iff_of_eq (congrArg (fun post => Program.Meets w post t.run s) ?_)
  funext r u
  cases r <;> rfl

theorem Meets.mono {t : Task ε β} {good' : β → σ → Prop} {bad' : Failure ε → σ → Prop}
    (h : t.Meets w good bad s) (hgood : ∀ b u, good b u → good' b u)
    (hbad : ∀ e u, bad e u → bad' e u) : t.Meets w good' bad' s :=
  Program.Meets.mono h fun r u hr => by
    cases r with
    | ok b => exact hgood b u hr
    | error e => exact hbad e u hr

end Task

namespace Fleet

variable {σ : Type} {w : Setting σ} {s : σ}

theorem meets_call {c : Engine.Call} {good : c.Value → σ → Prop}
    {bad : Failure ContainerError → σ → Prop} :
    (Fleet.call c).Meets w good bad s ↔ w.allowed (.engine c) s ∧
      ∀ (reply : c.Reply) t, w.answers (.engine c) s reply t →
        ending good (fun e u => bad (e.map .engine) u) reply t :=
  Task.meets_mapError

/-- Failures that say that something does not exist count as success. -/
theorem meets_ifPresent {a : Action Unit} {good : Unit → σ → Prop}
    {bad : Failure ContainerError → σ → Prop} :
    (ifPresent a).Meets w good bad s ↔
      a.Meets w good (fun e u => match e with
        | .error e => if e.isNotFound then good () u else bad (.error e) u
        | .panic text => bad (.panic text) u) s := by
  unfold Task.Meets ifPresent
  rw [ExceptT.run_mk, Program.meets_bind]
  refine iff_of_eq (congrArg (fun post => Program.Meets w post a.run s) ?_)
  funext r u
  rcases r with (e | text) | _
  · by_cases h : e.isNotFound = true <;> simp [ending, h]
  · rfl
  · rfl

end Fleet

/-! ## Steps of workflows -/

namespace StepAction

variable {σ ν α β γ : Type} {w : Setting σ}

/-- The program of a step, begun on a value, ends in `good` or `bad`; both speak of the value that
the step leaves. -/
def Meets (w : Setting σ) (good : β → ν → σ → Prop) (bad : Failure ContainerError → ν → σ → Prop)
    (x : StepAction ν β) (v : ν) (s : σ) : Prop :=
  Program.Meets w (fun r u => ending (fun b => good b r.2) (fun e => bad e r.2) r.1 u) (x.run v) s

variable {good : β → ν → σ → Prop} {bad : Failure ContainerError → ν → σ → Prop} {v : ν} {s : σ}

@[simp] theorem meets_pure {b : β} :
    (pure b : StepAction ν β).Meets w good bad v s ↔ good b v s := Iff.rfl

@[simp] theorem meets_get {good : ν → ν → σ → Prop} :
    (get : StepAction ν ν).Meets w good bad v s ↔ good v v s := Iff.rfl

@[simp] theorem meets_set {v' : ν} {good : PUnit → ν → σ → Prop} :
    (set v' : StepAction ν PUnit).Meets w good bad v s ↔ good ⟨⟩ v' s := Iff.rfl

@[simp] theorem meets_modify {f : ν → ν} {good : PUnit → ν → σ → Prop} :
    (modify f : StepAction ν PUnit).Meets w good bad v s ↔ good ⟨⟩ (f v) s := Iff.rfl

theorem run_bind (x : StepAction ν α) (f : α → StepAction ν β) (v : ν) :
    (x >>= f).run v = x.run v >>= fun r => match r.1 with
      | .ok a => (f a).run r.2
      | .error e => pure (.error e, r.2) := by
  refine congrArg (Program.bind (x.run v)) (funext fun ⟨r, v'⟩ => ?_)
  cases r <;> rfl

theorem meets_bind {x : StepAction ν α} {f : α → StepAction ν β} :
    (x >>= f).Meets w good bad v s
      ↔ x.Meets w (fun a v' u => (f a).Meets w good bad v' u) bad v s := by
  unfold Meets
  rw [run_bind, Program.meets_bind]
  refine iff_of_eq (congrArg (fun post => Program.Meets w post (x.run v) s) ?_)
  funext ⟨r, v'⟩ u
  cases r <;> rfl

theorem meets_during {a : Fleet.Action β} :
    (Fleet.during a : StepAction ν β).Meets w good bad v s
      ↔ a.Meets w (fun b u => good b v u) (fun e u => bad e v u) s := by
  unfold Meets
  change Program.Meets w _ ((fun r => (r, v)) <$> a.run) s ↔ _
  rw [Program.meets_map]
  refine iff_of_eq (congrArg (fun post => Program.Meets w post a.run s) ?_)
  funext r u
  cases r <;> rfl

/-- A loop over a list keeps `inv`, which speaks of what is left of the list. -/
theorem meets_forM (inv : List γ → ν → σ → Prop) {l : List γ} {f : γ → StepAction ν PUnit}
    (hstep : ∀ c rest v s, inv (c :: rest) v s →
      (f c).Meets w (fun _ v' u => inv rest v' u) bad v s)
    (h : inv l v s) : (l.forM f).Meets w (fun _ v' u => inv [] v' u) bad v s := by
  induction l generalizing v s with
  | nil => exact h
  | cons c rest ih =>
    change (f c >>= fun _ => rest.forM f).Meets w _ bad v s
    rw [meets_bind]
    exact Program.Meets.mono (hstep c rest v s h) fun r u hr => by
      obtain ⟨r, v'⟩ := r
      cases r with
      | ok _ => exact ih hr
      | error e => exact hr

theorem Meets.mono {x : StepAction ν β} {good' : β → ν → σ → Prop}
    {bad' : Failure ContainerError → ν → σ → Prop} (h : x.Meets w good bad v s)
    (hgood : ∀ b v' u, good b v' u → good' b v' u) (hbad : ∀ e v' u, bad e v' u → bad' e v' u) :
    x.Meets w good' bad' v s :=
  Program.Meets.mono h fun r u hr => by
    obtain ⟨r, v'⟩ := r
    cases r with
    | ok b => exact hgood b v' u hr
    | error e => exact hbad e v' u hr

end StepAction

/-! ## Workflows -/

namespace Workflow

variable {σ ν : Type} {w : Setting σ} {post : Except (StepError ContainerError) Unit × ν → σ → Prop}

/-- A workflow is observed at its next step, takes it, and goes on with the rest if that succeeded. -/
theorem meets_runSteps_cons {workflow name : String} {observe : String → Program Unit}
    {x : StepAction ν Unit} {rest : List (Step Program ContainerError ν)} {v : ν} {s : σ} :
    (runSteps workflow observe (Fleet.step name x :: rest) v).Meets w post s ↔
      (observe name).Meets w (fun _ t => x.Meets w
        (fun _ v' u => (runSteps workflow observe rest v').Meets w post u)
        (fun e v' u => post (.error (.ofFailure workflow name e), v') u) v t) s := by
  simp only [runSteps, Program.meets_bind]
  refine iff_of_eq (congrArg (fun post => Program.Meets w post (observe name) s) ?_)
  funext _ t
  refine congrArg (fun post => Program.Meets w post (x.run v) t) ?_
  funext r u
  obtain ⟨r, v'⟩ := r
  cases r <;> rfl

@[simp] theorem meets_runSteps_nil {workflow : String} {observe : String → Program Unit} {v : ν}
    {s : σ} :
    (runSteps workflow observe ([] : List (Step Program ContainerError ν)) v).Meets w post s
      ↔ post (.ok (), v) s := Iff.rfl

end Workflow

end Orchestrator
