import Orchestrator.Workflow

/-!
# Where a workflow ends

A step builds its action and then acts. It may panic at either, with any payload, or fail, and its argument
stays as it left it. `Behaviour` is all that a step may do, over a world that the step and the observer may
look at and change; its `step` is recorded when it is invoked.

Main statement: `aborts`, the steps that run are the first ones up to one that does not succeed, and the
workflow ends as that one does.
-/
namespace Orchestrator.Workflow

/-- What a panic is raised with. -/
inductive Payload where
  | literal (text : String)
  | owned (text : String)
  /-- Anything but a text. -/
  | other

/-- The text of a panic, if it has one. -/
def Payload.text? : Payload → Option String
  | .literal text => some text
  | .owned text => some text
  | .other => none

/-- What a step does with its argument and the world. -/
structure Behaviour (W ε σ : Type) where
  name : String
  /-- Building the action may panic already. -/
  build : σ × W → Except Payload (σ × W → Except Payload (Except ε Unit) × σ × W) × σ × W

/-- How a step ends. -/
inductive Conduct (ε : Type) where
  | succeeds
  | fails (cause : ε)
  | panicsBuilding (payload : Payload)
  | panicsActing (payload : Payload)

/-- How a workflow ends with a step that ends so. -/
def Conduct.report {ε : Type} (workflow step : String) : Conduct ε → Except (StepError ε) Unit
  | .succeeds => .ok ()
  | .fails cause => .error (.failed workflow step cause)
  | .panicsBuilding (.literal text) | .panicsActing (.literal text)
  | .panicsBuilding (.owned text) | .panicsActing (.owned text) =>
    .error (.panicked workflow step text)
  | .panicsBuilding .other | .panicsActing .other =>
    .error (.panicked workflow step "unknown panic")

/-- What the workflow sees of it. -/
def Conduct.outcome {ε : Type} : Conduct ε → Except (Failure ε) Unit
  | .succeeds => .ok ()
  | .fails cause => .error (.error cause)
  | .panicsBuilding payload | .panicsActing payload => .error (.panic payload.text?)

/-- A step that does not succeed ends the workflow with what the workflow sees of it. -/
theorem Conduct.exists_failure {ε : Type} {c : Conduct ε} (h : c ≠ .succeeds) (workflow step : String) :
    ∃ f, c.outcome = .error f ∧ c.report workflow step = .error (.ofFailure workflow step f) := by
  cases c with
  | succeeds => exact absurd rfl h
  | fails cause => exact ⟨_, rfl, rfl⟩
  | panicsBuilding payload => cases payload <;> exact ⟨_, rfl, rfl⟩
  | panicsActing payload => cases payload <;> exact ⟨_, rfl, rfl⟩

/-- What is recorded of a run. -/
inductive Entry (σ : Type) where
  /-- The observer is told of a step. -/
  | told (step : String)
  /-- A step is invoked on an argument. -/
  | invoked (step : String) (argument : σ)

/-- The world, and what has been recorded. -/
structure Record (W σ : Type) where
  world : W
  log : List (Entry σ)

/-- What goes on in a world and is recorded. -/
abbrev Recorded (W σ : Type) : Type → Type := StateM (Record W σ)

variable {W ε σ : Type}

namespace Behaviour

/-- How the step ends, and what it leaves of its argument and the world. -/
def perform (b : Behaviour W ε σ) (x : σ × W) : Conduct ε × σ × W :=
  match b.build x with
  | (.error payload, y) => (.panicsBuilding payload, y)
  | (.ok act, y) =>
    match act y with
    | (.error payload, z) => (.panicsActing payload, z)
    | (.ok (.error cause), z) => (.fails cause, z)
    | (.ok (.ok ()), z) => (.succeeds, z)

/-- Builds the action and acts; a panic is caught at either. -/
def attempt (b : Behaviour W ε σ) (x : σ × W) : Except Payload (Except ε Unit) × σ × W :=
  match b.build x with
  | (.ok act, y) => act y
  | (.error payload, y) => (.error payload, y)

/-- What the workflow sees of what was caught. -/
def caught : Except Payload (Except ε Unit) → Except (Failure ε) Unit
  | .ok (.ok ()) => .ok ()
  | .ok (.error cause) => .error (.error cause)
  | .error payload => .error (.panic payload.text?)

/-- The step. -/
def step (b : Behaviour W ε σ) : Step (Recorded W σ) ε σ where
  name := b.name
  action s := fun r =>
    let (outcome, left, world) := b.attempt (s, r.world)
    ((caught outcome, left), ⟨world, r.log ++ [.invoked b.name s]⟩)

theorem perform_eq (b : Behaviour W ε σ) (x : σ × W) :
    (b.perform x).1.outcome = caught (b.attempt x).1 ∧ (b.perform x).2 = (b.attempt x).2 := by
  unfold perform attempt
  obtain ⟨payload | act, y⟩ := b.build x
  · exact ⟨rfl, rfl⟩
  · dsimp only
    obtain ⟨payload | cause | _, z⟩ := act y
    · exact ⟨rfl, rfl⟩
    · exact ⟨rfl, rfl⟩
    · exact ⟨rfl, rfl⟩

theorem step_action (b : Behaviour W ε σ) (s : σ) (r : Record W σ) :
    b.step.action s r =
      (((b.perform (s, r.world)).1.outcome, (b.perform (s, r.world)).2.1),
        ⟨(b.perform (s, r.world)).2.2, r.log ++ [.invoked b.name s]⟩) := by
  obtain ⟨houtcome, hleft⟩ := b.perform_eq (s, r.world)
  rw [houtcome, hleft]
  rfl

end Behaviour

/-! ## Observers -/

/-- Someone who is told of steps: what this does to the world, and what is recorded of it. -/
structure Observer (W σ : Type) where
  watch : String → W → W
  notes : String → List (Entry σ)

namespace Observer

/-- Tells the observer of a step. -/
def tell (o : Observer W σ) (step : String) : Recorded W σ Unit :=
  modify fun r => ⟨o.watch step r.world, r.log ++ o.notes step⟩

/-- One of whom it is recorded what it is told. -/
def attentive (watch : String → W → W) : Observer W σ := ⟨watch, fun step => [.told step]⟩

/-- Nobody. -/
def silent : Observer W σ := ⟨fun _ w => w, fun _ => []⟩

theorem tell_silent : (silent : Observer W σ).tell = fun _ => pure () := by
  funext step r
  simp only [tell, silent, List.append_nil]
  rfl

end Observer

/-! ## Runs -/

/-- A step that is invoked. -/
structure Visit (W ε σ : Type) where
  behaviour : Behaviour W ε σ
  /-- The argument of the step, and the world when the observer is told of it. -/
  before : σ × W

namespace Visit

variable (o : Observer W σ) (v : Visit W ε σ)

/-- How the step ends and what it leaves. -/
def ending : Conduct ε × σ × W :=
  v.behaviour.perform (v.before.1, o.watch v.behaviour.name v.before.2)

/-- What is recorded of it. -/
def entries : List (Entry σ) :=
  o.notes v.behaviour.name ++ [.invoked v.behaviour.name v.before.1]

end Visit

/-- This is a run of a workflow with these steps: it visits the first of them, in order, the observer being
told before each. The first step works on the given argument and each other one on what the one before it
has left. All but the last succeed. The last one does too if every step was visited, and else it is the one
that the workflow ends with. -/
structure Course (workflow : String) (o : Observer W σ) (behaviours : List (Behaviour W ε σ)) (s : σ)
    (r : Record W σ) (visits : List (Visit W ε σ)) (after : (Except (StepError ε) Unit × σ) × Record W σ) :
    Prop where
  inOrder : visits.map Visit.behaviour <+: behaviours
  recorded : after.2.log = r.log ++ visits.flatMap (Visit.entries o)
  chained : visits.map Visit.before ++ [(after.1.2, after.2.world)]
    = (s, r.world) :: visits.map fun v => (v.ending o).2
  ended : (after.1.1 = .ok () ∧ visits.length = behaviours.length ∧
      ∀ v ∈ visits, (v.ending o).1 = .succeeds) ∨
    ∃ earlier v, visits = earlier ++ [v] ∧ (∀ v ∈ earlier, (v.ending o).1 = .succeeds) ∧
      (v.ending o).1 ≠ .succeeds ∧ after.1.1 = (v.ending o).1.report workflow v.behaviour.name

namespace Course

variable {workflow : String} {o : Observer W σ} {b : Behaviour W ε σ} {rest : List (Behaviour W ε σ)}
  {s : σ} {r : Record W σ} {visits : List (Visit W ε σ)}
  {after : (Except (StepError ε) Unit × σ) × Record W σ}

theorem none : Course workflow o [] s r ([] : List (Visit W ε σ)) ((.ok (), s), r) where
  inOrder := List.prefix_rfl
  recorded := (List.append_nil _).symm
  chained := rfl
  ended := .inl ⟨rfl, rfl, fun v hv => by cases hv⟩

/-- The first step succeeds, and the others run on what it leaves. -/
theorem succeeded {v : Visit W ε σ} (hv : v = ⟨b, s, r.world⟩) (hends : (v.ending o).1 = .succeeds)
    (h : Course workflow o rest (v.ending o).2.1 ⟨(v.ending o).2.2, r.log ++ v.entries o⟩ visits after) :
    Course workflow o (b :: rest) s r (v :: visits) after where
  inOrder := by
    rw [List.map_cons, hv]
    exact (List.prefix_cons_inj _).2 h.inOrder
  recorded := by
    rw [h.recorded, List.flatMap_cons, List.append_assoc]
  chained := by
    rw [List.map_cons, List.map_cons, List.cons_append, h.chained, hv]
  ended := by
    obtain ⟨hok, hlength, hall⟩ | ⟨earlier, last, rfl, hall, hlast, hreport⟩ := h.ended
    · exact .inl ⟨hok, congrArg (· + 1) hlength, List.forall_mem_cons.2 ⟨hends, hall⟩⟩
    · exact .inr ⟨v :: earlier, last, rfl, List.forall_mem_cons.2 ⟨hends, hall⟩, hlast, hreport⟩

variable (workflow rest) in
/-- The first step does not succeed. -/
theorem stopped {v : Visit W ε σ} (hv : v = ⟨b, s, r.world⟩) (hends : (v.ending o).1 ≠ .succeeds) :
    Course workflow o (b :: rest) s r [v]
      (((v.ending o).1.report workflow b.name, (v.ending o).2.1),
        ⟨(v.ending o).2.2, r.log ++ v.entries o⟩) where
  inOrder := by
    rw [List.map_cons, hv]
    exact (List.prefix_cons_inj _).2 List.nil_prefix
  recorded := by
    rw [List.flatMap_cons, List.flatMap_nil, List.append_nil]
  chained := by
    rw [List.map_cons, hv]
    rfl
  ended := .inr ⟨[], v, rfl, fun v hv => (by cases hv), hends, by rw [hv]⟩

end Course

/-- A run goes on after a step that succeeds. -/
theorem runSteps_of_ok {workflow : String} {observe : String → Recorded W σ Unit}
    {step : Step (Recorded W σ) ε σ} {rest : List (Step (Recorded W σ) ε σ)} {s left : σ}
    {r told r' : Record W σ} (htold : observe step.name r = ((), told))
    (haction : step.action s told = ((.ok (), left), r')) :
    runSteps workflow observe (step :: rest) s r = runSteps workflow observe rest left r' := by
  rw [runSteps]
  simp only [bind, StateT.bind]
  rw [htold]
  dsimp only
  rw [haction]

/-- A run ends with a step that does not succeed. -/
theorem runSteps_of_error {workflow : String} {observe : String → Recorded W σ Unit}
    {step : Step (Recorded W σ) ε σ} {rest : List (Step (Recorded W σ) ε σ)} {s left : σ}
    {r told r' : Record W σ} {f : Failure ε} (htold : observe step.name r = ((), told))
    (haction : step.action s told = ((.error f, left), r')) :
    runSteps workflow observe (step :: rest) s r
      = ((.error (.ofFailure workflow step.name f), left), r') := by
  rw [runSteps]
  simp only [bind, StateT.bind]
  rw [htold]
  dsimp only
  rw [haction]
  rfl

/-- Every run is a course of its workflow. -/
theorem course_runSteps (workflow : String) (o : Observer W σ) (behaviours : List (Behaviour W ε σ))
    (s : σ) (r : Record W σ) :
    ∃ visits, Course workflow o behaviours s r visits
      (runSteps workflow o.tell (behaviours.map Behaviour.step) s r) := by
  induction behaviours generalizing s r with
  | nil => exact ⟨[], .none⟩
  | cons b rest ih =>
    obtain ⟨v, hv⟩ : ∃ v : Visit W ε σ, v = ⟨b, s, r.world⟩ := ⟨_, rfl⟩
    have htold : o.tell b.name r = ((), ⟨o.watch b.name r.world, r.log ++ o.notes b.name⟩) := rfl
    have haction : b.step.action s ⟨o.watch b.name r.world, r.log ++ o.notes b.name⟩
        = (((v.ending o).1.outcome, (v.ending o).2.1), ⟨(v.ending o).2.2, r.log ++ v.entries o⟩) := by
      rw [b.step_action, List.append_assoc, hv]
      rfl
    rw [List.map_cons]
    by_cases hends : (v.ending o).1 = .succeeds
    · rw [hends] at haction
      rw [runSteps_of_ok htold haction]
      obtain ⟨visits, hcourse⟩ := ih (v.ending o).2.1 ⟨(v.ending o).2.2, r.log ++ v.entries o⟩
      exact ⟨v :: visits, hcourse.succeeded hv hends⟩
    · obtain ⟨f, houtcome, hreport⟩ := Conduct.exists_failure hends workflow b.name
      rw [houtcome] at haction
      rw [runSteps_of_error htold haction]
      refine ⟨[v], ?_⟩
      have hstopped := Course.stopped workflow rest hv hends
      rwa [hreport] at hstopped

/-- The workflow to which steps were added one by one. -/
def assembled (name : String) (behaviours : List (Behaviour W ε σ)) : Workflow (Recorded W σ) ε σ :=
  behaviours.foldl (fun w b => w.add b.step) (.new name)

theorem assembled_eq (name : String) (behaviours : List (Behaviour W ε σ)) :
    assembled name behaviours = ⟨name, behaviours.map Behaviour.step⟩ := by
  have hadd (w : Workflow (Recorded W σ) ε σ) : behaviours.foldl (fun w b => w.add b.step) w
      = ⟨w.name, w.steps ++ behaviours.map Behaviour.step⟩ := by
    induction behaviours generalizing w with
    | nil => simp
    | cons b rest ih => rw [List.foldl_cons, ih, add, List.map_cons, List.append_assoc]; rfl
  exact hadd (.new name)

/-- **Where a workflow ends.** On every run a workflow invokes its first steps in the order in which they
were added, up to and including the first one that does not succeed, each on what the one before it has
left. The observer is told of each before it is invoked. The workflow succeeds if every step did, and else
reports the error or the panic of the one that it ended with. Unobserved it takes this course too, and
nobody is told. -/
theorem aborts (name : String) (behaviours : List (Behaviour W ε σ)) :
    (∀ watch s r, ∃ visits, Course name (.attentive watch) behaviours s r visits
      ((assembled name behaviours).runObserved (Observer.attentive watch).tell s r)) ∧
    (∀ s r, ∃ visits, Course name .silent behaviours s r visits ((assembled name behaviours).run s r)) ∧
    ∀ s, (assembled name behaviours).run s
      = (assembled name behaviours).runObserved Observer.silent.tell s := by
  have hrun (s : σ) : (assembled name behaviours).run s
      = (assembled name behaviours).runObserved Observer.silent.tell s := by
    rw [Observer.tell_silent]
    rfl
  refine ⟨fun watch s r => ?_, fun s r => ?_, hrun⟩
  · rw [assembled_eq]
    exact course_runSteps name (.attentive watch) behaviours s r
  · rw [hrun, assembled_eq]
    exact course_runSteps name .silent behaviours s r

end Orchestrator.Workflow
