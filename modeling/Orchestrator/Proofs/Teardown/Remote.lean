import Orchestrator.Proofs.Engine.Exchanges
import Orchestrator.Proofs.Program.Setting
import Orchestrator.Proofs.Store.Reported

/-!
# A teardown over a connection

The containers that an engine lists may be gone when they are asked after, stopped or removed, and may have
stopped by themselves; a teardown goes on all the same, and only a refusal ends it. What it asks for follows
from what it is answered (`Teardown.script`): of the containers that were there it stops those that ran, and
then it removes each. Main statement: `Teardown.ends_over_connection`.
-/
namespace Orchestrator

open Engine Engine.Remote

/-- The calls of a program go over a connection; nothing else that it asks for does. -/
def answerOver (others : (r : Request) → r.Answer) (r : Request) (c : Connection) : r.Answer × Connection :=
  match r with
  | .engine call => ((serve c call).1.mapError .error, (serve c call).2)
  | r => (others r, c)

/-- Programs may ask for anything, and are answered over a connection. -/
def onConnection (others : (r : Request) → r.Answer) : Setting Connection where
  allowed _ _ := True
  answers r c a c' := answerOver others r c = (a, c')

/-- In a step the talks were broken off, which is the failure it ends with. -/
def Failed (c₀ : Connection) (rest : List HttpResponse) (talks : List Talk) (step : String)
    (f : Failure ContainerError) (c : Connection) : Prop :=
  ∃ e, f = .error (.engine e) ∧ Refused c₀ rest talks step e c

section

variable {others : (r : Request) → r.Answer} {c c' c₀ : Connection} {rest more : List HttpResponse}
  {said left talks : List Talk} {x : Talk} {step : String}

/-! ## Calls -/

theorem Fleet.meets_call_over {call : Call} {result : call.Outcome} {good : call.Value → Connection → Prop}
    {bad : Failure ContainerError → Connection → Prop} (h : serve c call = (result, c'))
    (hgood : ∀ v, result = .ok v → good v c')
    (hbad : ∀ e, result = .error e → bad (.error (.engine e)) c') :
    (Fleet.call call).Meets (onConnection others) good bad c := by
  refine Fleet.meets_call.2 ⟨trivial, fun reply u hreply => ?_⟩
  change ((serve c call).1.mapError .error, (serve c call).2) = (reply, u) at hreply
  rw [h] at hreply
  obtain ⟨rfl, rfl⟩ := Prod.mk.inj hreply
  cases result with
  | ok v => exact hgood v rfl
  | error e => exact hbad e rfl

/-- The containers of a deployment are listed, or the step fails. -/
theorem listOwned_over {d : String} {response : HttpResponse} {sightings : List Sighting}
    (hsuccess : response.status < 400)
    (hlisted : Json.decode asSummaries response.body.toList = .ok (sightings.map Sighting.id))
    (hs : ∀ s ∈ sightings, s.IsAnswered)
    (h : Midway c₀ rest said (listing step Container.ownerLabel d response ::
      sightings.map (Sighting.inspect step) ++ left) c) :
    (Fleet.listOwned d).Meets (onConnection others)
      (fun l u => l = sightings.filterMap Sighting.container? ∧
        Midway c₀ rest (said ++ (listing step Container.ownerLabel d response ::
          sightings.map (Sighting.inspect step))) left u)
      (Failed c₀ rest (said ++ (listing step Container.ownerLabel d response ::
        sightings.map (Sighting.inspect step)) ++ left) step) c := by
  have listed := list_outcome hsuccess hlisted hs h
  refine Fleet.meets_call_over rfl (fun l hl => ?_) fun e he => ?_
  · rcases listed with ⟨hok, hmidway⟩ | ⟨e, herror, -⟩
    · exact ⟨Except.ok.inj (hl.symm.trans hok), hmidway⟩
    · cases hl.symm.trans herror
  · rcases listed with ⟨hok, -⟩ | ⟨e', herror, hrefused⟩
    · cases he.symm.trans hok
    · exact ⟨e, rfl, Except.error.inj (he.symm.trans herror) ▸ hrefused⟩

/-- An order to a container is given in one talk, whose answer says nothing but how it went. That the
container does not exist is no failure. -/
theorem ifPresent_over {a : Fleet.Action Unit} (h : Midway c₀ rest said (x :: left) c)
    (ha : ∀ more, c.responses = x.response :: more → a.Meets (onConnection others)
      (fun _ u => (∃ body, answerOf x.response = .ok body) ∧ u = c.after [x] more)
      (fun f u => ∃ e, f = .error (.engine e) ∧ answerOf x.response = .error e ∧ u = c.after [x] more) c) :
    (Fleet.ifPresent a).Meets (onConnection others) (fun _ u => Midway c₀ rest (said ++ [x]) left u)
      (Failed c₀ rest (said ++ x :: left) x.step) c := by
  obtain ⟨more, hresponses, hgoes, hbreaks⟩ := h.next
  refine Fleet.meets_ifPresent.2 ((ha more hresponses).mono ?_ ?_)
  · rintro - u ⟨⟨body, hbody⟩, rfl⟩
    refine hgoes fun hx => ?_
    rw [answerOf_of_isRefusal hx] at hbody
    cases hbody
  · rintro f u ⟨e, rfl, he, rfl⟩
    dsimp only
    by_cases hx : x.Breaks
    · rw [answerOf_of_isRefusal hx] at he
      obtain rfl := Except.error.inj he
      obtain ⟨text, htext⟩ := refusal_of_isRefusal hx
      rw [if_neg (by rw [htext]; exact Bool.false_ne_true)]
      exact ⟨_, rfl, x, rfl, rfl, hbreaks hx⟩
    · obtain ⟨text, htext⟩ := answerOf_of_notFound (notFound_of_not_isRefusal he hx)
      obtain rfl := Except.error.inj (he.symm.trans htext)
      exact hgoes hx

/-- An order, as the engine is called. -/
theorem order_over {call : Call} {f : String → call.Value}
    (h : serve c call = ((answerOf x.response).map f, c.after [x] more)) :
    (Fleet.call call).Meets (onConnection others)
      (fun _ u => (∃ body, answerOf x.response = .ok body) ∧ u = c.after [x] more)
      (fun f u => ∃ e, f = .error (.engine e) ∧ answerOf x.response = .error e ∧ u = c.after [x] more) c := by
  refine Fleet.meets_call_over h (fun v hv => ⟨?_, rfl⟩) fun e he => ⟨e, rfl, ?_, rfl⟩
  · cases hanswer : answerOf x.response with
    | ok body => exact ⟨body, rfl⟩
    | error e => rw [hanswer] at hv; cases hv
  · cases hanswer : answerOf x.response with
    | ok body => rw [hanswer] at he; cases he
    | error e' => rw [hanswer] at he; cases he; rfl

/-- A container is stopped if it was reported to run. -/
theorem stopIfRunning_over {s : Sighting} {found : Container} (hid : found.id = s.id)
    (h : Midway c₀ rest said ((if found.isRunning then [s.stop step] else []) ++ left) c) :
    (Fleet.stopIfRunning found).Meets (onConnection others)
      (fun _ u => Midway c₀ rest (said ++ if found.isRunning then [s.stop step] else []) left u)
      (Failed c₀ rest (said ++ ((if found.isRunning then [s.stop step] else []) ++ left)) step) c := by
  unfold Fleet.stopIfRunning
  by_cases hruns : found.isRunning = true
  · simp only [if_pos hruns, List.singleton_append] at h ⊢
    refine ifPresent_over h fun more hresponses => order_over (x := s.stop step) (f := fun _ => ()) ?_
    rw [hid]
    exact serve_stop hresponses
  · simp only [if_neg hruns, List.append_nil, List.nil_append] at h ⊢
    exact h

/-- A container is removed. -/
theorem removeIfPresent_over {s : Sighting} {found : Container} (hid : found.id = s.id)
    (h : Midway c₀ rest said ([s.remove step] ++ left) c) :
    (Fleet.removeIfPresent found).Meets (onConnection others)
      (fun _ u => Midway c₀ rest (said ++ [s.remove step]) left u)
      (Failed c₀ rest (said ++ ([s.remove step] ++ left)) step) c := by
  refine ifPresent_over h fun more hresponses => order_over (x := s.remove step) (f := fun _ => ()) ?_
  rw [hid]
  exact serve_remove hresponses

/-! ## Steps -/

/-- The containers that were there when they were asked after, as they were reported. -/
def reported (sightings : List Sighting) : List (Sighting × Container) :=
  sightings.filterMap fun s => s.container?.map fun found => (s, found)

theorem map_snd_reported (sightings : List Sighting) :
    (reported sightings).map Prod.snd = sightings.filterMap Sighting.container? := by
  rw [reported, List.map_filterMap]
  simp [Function.comp_def]

theorem id_of_mem_reported {sightings : List Sighting} (hs : ∀ s ∈ sightings, s.IsAnswered)
    {p : Sighting × Container} (hp : p ∈ reported sightings) : p.2.id = p.1.id := by
  obtain ⟨s, hmem, heq⟩ := List.mem_filterMap.1 hp
  obtain ⟨found, hfound, rfl⟩ := Option.map_eq_some_iff.1 heq
  exact (hs s hmem).id_eq hfound

/-- The orders to the containers of a list are given in turn, up to a refusal. -/
theorem forM_over {l : List (Sighting × Container)} {talks : Sighting × Container → List Talk}
    {act : Container → Fleet.Action Unit} {t : Teardown}
    (hact : ∀ p ∈ l, ∀ {said left : List Talk} {c : Connection}, Midway c₀ rest said (talks p ++ left) c →
      (act p.2).Meets (onConnection others) (fun _ u => Midway c₀ rest (said ++ talks p) left u)
        (Failed c₀ rest (said ++ (talks p ++ left)) step) c)
    (h : Midway c₀ rest said (l.flatMap talks ++ left) c) :
    ((l.map Prod.snd).forM fun found => Fleet.during (act found) : StepAction Teardown PUnit).Meets
      (onConnection others) (fun _ t' u => t' = t ∧ Midway c₀ rest (said ++ l.flatMap talks) left u)
      (fun e _ u => Failed c₀ rest (said ++ (l.flatMap talks ++ left)) step e u) t c := by
  induction l generalizing said c with
  | nil => exact ⟨rfl, by simpa using h⟩
  | cons p l ih =>
    rw [List.flatMap_cons, List.append_assoc] at h
    change (Fleet.during (act p.2) >>= fun _ => (l.map Prod.snd).forM _ : StepAction Teardown PUnit).Meets ..
    rw [List.flatMap_cons, List.append_assoc, ← List.append_assoc said]
    refine StepAction.meets_bind.2 (StepAction.meets_during.2 ?_)
    refine (hact p List.mem_cons_self h).mono (fun _ u hu => ?_) fun e u hu => ?_
    · simpa only [List.append_assoc] using ih (fun q hq => hact q (List.mem_cons_of_mem p hq)) hu
    · simpa only [List.append_assoc] using hu

namespace Teardown

variable {t : Teardown} {sightings : List Sighting}

/-- The containers are listed, and each of them is asked after. -/
def asking (d : String) (response : HttpResponse) (sightings : List Sighting) : List Talk :=
  listing "fetch-current-containers" Container.ownerLabel d response ::
    sightings.map (Sighting.inspect "fetch-current-containers")

/-- The containers that were reported to run are stopped. -/
def stopping (sightings : List Sighting) : List Talk :=
  ((reported sightings).filter fun p => p.2.isRunning).map fun p => p.1.stop "stop-containers"

/-- The containers that were there are removed. -/
def removing (sightings : List Sighting) : List Talk :=
  (reported sightings).map fun p => p.1.remove "remove-containers"

/-- What a teardown asks for, and is answered. -/
def script (d : String) (response : HttpResponse) (sightings : List Sighting) : List Talk :=
  asking d response sightings ++ (stopping sightings ++ removing sightings)

/-- The job works on the containers that were there. -/
def Found (sightings : List Sighting) (t : Teardown) : Prop :=
  t.current = (reported sightings).map Prod.snd

theorem fetchCurrent_over {response : HttpResponse} (hsuccess : response.status < 400)
    (hlisted : Json.decode asSummaries response.body.toList = .ok (sightings.map Sighting.id))
    (hs : ∀ s ∈ sightings, s.IsAnswered)
    (h : Midway c₀ rest said (asking t.config.name response sightings ++ left) c) :
    fetchCurrent.Meets (onConnection others)
      (fun _ t' u => Found sightings t' ∧
        Midway c₀ rest (said ++ asking t.config.name response sightings) left u)
      (fun e _ u => Failed c₀ rest (said ++ (asking t.config.name response sightings ++ left))
        "fetch-current-containers" e u) t c := by
  refine StepAction.meets_bind.2 (StepAction.meets_get.2 (StepAction.meets_bind.2
    (StepAction.meets_during.2 ((listOwned_over hsuccess hlisted hs h).mono ?_ fun e u hbad => ?_))))
  · rintro l u ⟨rfl, hu⟩
    exact ⟨(map_snd_reported sightings).symm, hu⟩
  · rwa [List.append_assoc] at hbad

/-- The orders that stop containers, for one container after another. -/
theorem stopping_eq (sightings : List Sighting) :
    stopping sightings = (reported sightings).flatMap fun p =>
      if p.2.isRunning then [p.1.stop "stop-containers"] else [] := by
  unfold stopping
  induction reported sightings with
  | nil => rfl
  | cons p l ih => by_cases hruns : p.2.isRunning = true <;> simp [hruns, ih]

theorem stopContainers_over (hs : ∀ s ∈ sightings, s.IsAnswered) (ht : Found sightings t)
    (h : Midway c₀ rest said (stopping sightings ++ left) c) :
    stopContainers.Meets (onConnection others)
      (fun _ t' u => Found sightings t' ∧ Midway c₀ rest (said ++ stopping sightings) left u)
      (fun e _ u => Failed c₀ rest (said ++ (stopping sightings ++ left)) "stop-containers" e u) t c := by
  rw [stopping_eq] at h ⊢
  refine StepAction.meets_bind.2 (StepAction.meets_get.2 ?_)
  rw [show t.current = _ from ht]
  refine (forM_over (fun p hp => stopIfRunning_over (id_of_mem_reported hs hp)) h).mono ?_
    fun _ _ _ hbad => hbad
  rintro - t' u ⟨rfl, hu⟩
  exact ⟨ht, hu⟩

theorem removeContainers_over (hs : ∀ s ∈ sightings, s.IsAnswered) (ht : Found sightings t)
    (h : Midway c₀ rest said (removing sightings ++ left) c) :
    removeContainers.Meets (onConnection others)
      (fun _ _ u => Midway c₀ rest (said ++ removing sightings) left u)
      (fun e _ u => Failed c₀ rest (said ++ (removing sightings ++ left)) "remove-containers" e u) t c := by
  unfold removing at h ⊢
  rw [List.map_eq_flatMap] at h ⊢
  refine StepAction.meets_bind.2 (StepAction.meets_get.2 ?_)
  rw [show t.current = _ from ht]
  exact (forM_over (fun p hp => removeIfPresent_over (id_of_mem_reported hs hp)) h).mono
    (fun _ _ _ hu => hu.2) fun _ _ _ hbad => hbad

/-! ## The attempt -/

/-- How a teardown has ended: all talks were held, or they were broken off. -/
def Ended (c₀ : Connection) (rest : List HttpResponse) (talks : List Talk)
    (outcome : Except (StepError ContainerError) Unit) (c : Connection) : Prop :=
  (outcome = .ok () ∧ Midway c₀ rest talks [] c) ∨
    ∃ x, outcome = .error (.failed "delete" x.step (.engine (refusal x.response))) ∧
      Broken c₀ rest talks x c

/-- A step is announced, which is no call, and then taken. -/
theorem step_over {job : Job} {name : String} {action : StepAction Teardown Unit}
    {steps : List (Step Program ContainerError Teardown)} (next : Teardown → Connection → Prop)
    (haction : action.Meets (onConnection others) (fun _ t' u => next t' u)
      (fun e _ u => Failed c₀ rest talks name e u) t c)
    (hsteps : ∀ t' u, next t' u → (Workflow.runSteps "delete" job.announceStep steps t').Meets
      (onConnection others) (fun r u => Ended c₀ rest talks r.1 u) u) :
    (Workflow.runSteps "delete" job.announceStep (Fleet.step name action :: steps) t).Meets
      (onConnection others) (fun r u => Ended c₀ rest talks r.1 u) c := by
  refine Workflow.meets_runSteps_cons.2 ⟨trivial, fun a u hu => ?_⟩
  obtain ⟨-, rfl⟩ := Prod.mk.inj (hu : (others _, c) = (a, u))
  refine Program.meets_done.2 (haction.mono (fun _ => hsteps) ?_)
  rintro e t' u ⟨err, rfl, x, rfl, rfl, hbroken⟩
  exact .inr ⟨x, rfl, hbroken⟩

theorem workflow_over (others : (r : Request) → r.Answer) (job : Job) (t : Teardown)
    {response : HttpResponse} (hsuccess : response.status < 400)
    (hlisted : Json.decode asSummaries response.body.toList = .ok (sightings.map Sighting.id))
    (hs : ∀ s ∈ sightings, s.IsAnswered)
    (h : Midway c₀ rest [] (script t.config.name response sightings) c) :
    (workflow.runObserved job.announceStep t).Meets (onConnection others)
      (fun r u => Ended c₀ rest (script t.config.name response sightings) r.1 u) c := by
  refine step_over _ (fetchCurrent_over hsuccess hlisted hs h) fun t₁ u₁ ⟨ht₁, h₁⟩ => ?_
  refine step_over _ (stopContainers_over hs ht₁ h₁) fun t₂ u₂ ⟨ht₂, h₂⟩ => ?_
  rw [← List.append_nil (removing sightings)] at h₂
  have hremove : removeContainers.Meets (onConnection others) _ _ t₂ u₂ := removeContainers_over hs ht₂ h₂
  rw [List.append_nil, List.append_assoc] at hremove
  exact step_over _ hremove fun t₃ u₃ h₃ => .inl ⟨rfl, h₃⟩

/-- An attempt ends as its workflow does. -/
theorem attempt_over (f : Fleet) {job : Job} {config : Deployment} {current : List Container}
    (hwork : job.work = .delete config current)
    (h : (workflow.runObserved job.announceStep ⟨config, current⟩).Meets (onConnection others)
      (fun r u => Ended c₀ rest talks r.1 u) c) :
    (job.attempt f).Meets (onConnection others) (fun r u => Ended c₀ rest talks r.1 u) c := by
  unfold Job.attempt
  rw [hwork]
  refine Program.meets_bind.2 (h.mono ?_)
  rintro ⟨outcome, t⟩ u hended
  exact hended

end Teardown

/-- The containers that were there are those for which there was an answer. -/
theorem map_fst_reported {sightings : List Sighting} (hs : ∀ s ∈ sightings, s.IsAnswered) :
    (reported sightings).map Prod.fst = sightings.filter fun s => s.inspection.status < 400 := by
  have hpairs : (fun s : Sighting => (s.container?.map fun found => (s, found)).map Prod.fst) =
      Option.guard fun s => s.container?.isSome := by
    funext s
    cases h : s.container? <;> simp [Option.guard, h]
  rw [reported, List.map_filterMap, hpairs, List.filterMap_eq_filter]
  refine List.filter_congr fun s hmem => ?_
  rw [Bool.eq_iff_iff, decide_eq_true_iff]
  exact (hs s hmem).isSome_iff

end

namespace Teardown

/-- A teardown asks for all of its script, and succeeds, if nothing in it is refused, and otherwise fails at
the step of the first refusal and asks for nothing more. It stops and removes containers that were there
when they were asked after, in the order of the listing, and none twice. -/
theorem ends_over_connection (f : Fleet) (others : (r : Request) → r.Answer) {job : Job}
    {config : Deployment} {current : List Container} (hwork : job.work = .delete config current)
    {c : Connection} {rest : List HttpResponse} {response : HttpResponse} {sightings : List Sighting}
    (hsuccess : response.status = 200)
    (hlisted : Json.decode asSummaries response.body.toList = .ok (sightings.map Sighting.id))
    (hdistinct : (sightings.map Sighting.id).Nodup) (hs : ∀ s ∈ sightings, s.IsAnswered)
    (hresponses : c.responses =
      (held (script config.name response sightings)).map Talk.response ++ rest) :
    let talks := script config.name response sightings
    let r := (job.attempt f).run (answerOver others) c
    (reported sightings).map Prod.fst = (sightings.filter fun s => s.inspection.status < 400) ∧
      ((reported sightings).map fun p => p.1.id).Nodup ∧
      ((∀ x ∈ talks, ¬ x.Breaks) → r.1.1 = .ok () ∧ r.2 = c.after talks rest) ∧
      ∀ before x later, talks = before ++ x :: later → (∀ y ∈ before, ¬ y.Breaks) → x.Breaks →
        ∃ text, r.1.1 = .error (.failed "delete" x.step (.engine (.api text))) ∧
          r.2 = c.after (before ++ [x]) rest := by
  intro talks r
  have hworkflow := workflow_over others job ⟨config, current⟩ (hsuccess ▸ by decide) hlisted hs
    (.start hresponses)
  have hended : Ended c rest talks r.1.1 r.2 := (attempt_over f hwork hworkflow).run fun _ _ => rfl
  have hfirst := map_fst_reported hs
  refine ⟨hfirst, ?_, fun hunbroken => ?_, fun before x later htalks hbefore hx => ?_⟩
  · have hsublist : ((reported sightings).map fun p => p.1.id).Sublist (sightings.map Sighting.id) := by
      change ((reported sightings).map (Sighting.id ∘ Prod.fst)).Sublist _
      rw [← List.map_map, hfirst]
      exact List.filter_sublist.map _
    exact hdistinct.sublist hsublist
  · rcases hended with ⟨hok, hmidway⟩ | ⟨x, -, said, left, hsplit, -, hx, -⟩
    · exact ⟨hok, hmidway.eq⟩
    · exact absurd hx (hunbroken x (hsplit ▸ List.mem_append_right said List.mem_cons_self))
  · rcases hended with ⟨-, hmidway⟩ | ⟨x', herror, said, left, hsplit, hsaid, hx', hc⟩
    · exact absurd hx (hmidway.unbroken x (htalks ▸ List.mem_append_right before List.mem_cons_self))
    · have heq : said ++ [x'] = before ++ [x] := by
        rw [← held_of_broken hsaid hx', ← held_of_broken hbefore hx, ← hsplit, ← htalks]
      obtain ⟨-, hlast⟩ := List.append_inj' heq rfl
      obtain rfl : x' = x := List.cons.inj hlast |>.1
      obtain ⟨text, htext⟩ := refusal_of_isRefusal hx'
      exact ⟨text, htext ▸ herror, heq ▸ hc⟩

/-! ## One teardown -/

/-- Answers to what is not asked of an engine. -/
def others : (r : Request) → r.Answer
  | .engine _ => .error (.panic none)
  | .secret deployment key => .error (.unknownSecret key deployment)
  | .suffix => "0"
  | .pause _ => ()
  | .announce .. => ()
  | .isBusy _ => false
  | .offer .. => .error .queueClosed

/-- What is reported of a container that runs. -/
def runningReport : Json :=
  Json.record [("Id", Json.text "c1"), ("State", Json.record [("Status", Json.text "running")])]

/-- The container of the report. -/
def runningContainer : Container :=
  Report.container { id := some "c1", state := some { status := some .running } }

theorem decode_runningReport :
    Json.decode asContainer runningReport.render.toList = .ok runningContainer :=
  Json.decode_render (Json.printable_record (List.forall_mem_cons.2 ⟨Json.printable_text _,
    List.forall_mem_cons.2 ⟨Json.printable_record (by simp), List.forall_mem_nil _⟩⟩)) rfl

/-- A listing of two containers. -/
def pair : HttpResponse :=
  ⟨200, (Json.array [Json.record [("Id", Json.text "c1")], Json.record [("Id", Json.text "c2")]]).render⟩

theorem decode_pair : Json.decode asSummaries pair.body.toList = .ok ["c1", "c2"] :=
  Json.decode_render (Json.printable_array (List.forall_mem_cons.2 ⟨Json.printable_record (by simp),
    List.forall_mem_cons.2 ⟨Json.printable_record (by simp), List.forall_mem_nil _⟩⟩)) rfl

/-- A container that runs, with what is answered to the order to stop it. -/
def lasting (stopping : HttpResponse) : Sighting :=
  ⟨"c1", ⟨200, runningReport.render⟩, stopping, ⟨204, ""⟩⟩

/-- A container that is gone when it is asked after. -/
def vanished : Sighting := ⟨"c2", ⟨404, ""⟩, ⟨404, ""⟩, ⟨404, ""⟩⟩

theorem isAnswered_vanished (stopping : HttpResponse) :
    ∀ s ∈ [lasting stopping, vanished], s.IsAnswered :=
  List.forall_mem_cons.2 ⟨fun _ => ⟨_, decode_runningReport, rfl⟩,
    List.forall_mem_cons.2 ⟨fun hsuccess => absurd hsuccess (by decide), List.forall_mem_nil _⟩⟩

theorem reported_vanished (stopping : HttpResponse) :
    reported [lasting stopping, vanished] = [(lasting stopping, runningContainer)] := by
  have hbody : readBody asContainer runningReport.render = .ok runningContainer := by
    rw [readBody, decode_runningReport]
  have hfound : (lasting stopping).container? = some runningContainer := by
    change (readBody asContainer runningReport.render).toOption = _
    rw [hbody]
    rfl
  rw [reported, List.filterMap_cons_some (by rw [hfound]; rfl)]
  rfl

theorem script_vanished (stopping : HttpResponse) :
    script (Deployment.new "api" "").name pair [lasting stopping, vanished] = [
      listing "fetch-current-containers" Container.ownerLabel "api" pair,
      (lasting stopping).inspect "fetch-current-containers", vanished.inspect "fetch-current-containers",
      (lasting stopping).stop "stop-containers", (lasting stopping).remove "remove-containers"] := by
  unfold script Teardown.stopping removing
  rw [reported_vanished]
  rfl

/-- The responses, of which one is given to the order to stop. -/
def vanishing (stopping : HttpResponse) : Connection :=
  ⟨[pair, ⟨200, runningReport.render⟩, ⟨404, ""⟩, stopping, ⟨204, ""⟩], ⟨500, ""⟩, []⟩

/-- What was asked for on a connection. -/
def asked (c : Connection) : List (String × String) := c.requests.map fun q => (q.method, q.path)

/-- A teardown passes over a container that has gone, and does not mind that the other one has stopped by
itself; but it ends where that one cannot be stopped, and does not remove it. -/
theorem ends_over_connection_vanished :
    let ends stopping := ((Job.deleteOrphaned ⟨0⟩ .epoch "api" 1).attempt {}).run (answerOver others)
      (vanishing stopping)
    (ends ⟨304, ""⟩).1.1 = .ok () ∧
    asked (ends ⟨304, ""⟩).2 = [("GET", "/v1.47/containers/json"), ("GET", "/v1.47/containers/c1/json"),
      ("GET", "/v1.47/containers/c2/json"), ("POST", "/v1.47/containers/c1/stop"),
      ("DELETE", "/v1.47/containers/c1")] ∧
    (∃ text, (ends ⟨500, ""⟩).1.1 = .error (.failed "delete" "stop-containers" (.engine (.api text)))) ∧
    asked (ends ⟨500, ""⟩).2 = [("GET", "/v1.47/containers/json"), ("GET", "/v1.47/containers/c1/json"),
      ("GET", "/v1.47/containers/c2/json"), ("POST", "/v1.47/containers/c1/stop")] := by
  intro ends
  have hwork : (Job.deleteOrphaned ⟨0⟩ .epoch "api" 1).work = .delete (Deployment.new "api" "") [] := rfl
  have hstopped : (vanishing ⟨304, ""⟩).responses =
      (held (script (Deployment.new "api" "").name pair
        [lasting ⟨304, ""⟩, vanished])).map Talk.response ++ [] := by
    rw [script_vanished]
    rfl
  have hrefused : (vanishing ⟨500, ""⟩).responses =
      (held (script (Deployment.new "api" "").name pair
        [lasting ⟨500, ""⟩, vanished])).map Talk.response ++ [⟨204, ""⟩] := by
    rw [script_vanished]
    rfl
  obtain ⟨-, -, hends, -⟩ := ends_over_connection {} others hwork rfl decode_pair (by decide)
    (isAnswered_vanished ⟨304, ""⟩) hstopped
  obtain ⟨-, -, -, hbreaks⟩ := ends_over_connection {} others hwork rfl decode_pair (by decide)
    (isAnswered_vanished ⟨500, ""⟩) hrefused
  obtain ⟨hok, hc⟩ := hends (by rw [script_vanished]; decide)
  obtain ⟨text, herror, hc'⟩ := hbreaks _ _ _ (script_vanished ⟨500, ""⟩ |>.trans
    (List.append_cons [_, _, _] _ [_]).symm) (by decide) (by decide)
  refine ⟨hok, ?_, ⟨text, herror⟩, ?_⟩
  · rw [hc, script_vanished]
    decide +kernel
  · rw [hc']
    decide +kernel

end Teardown

end Orchestrator
