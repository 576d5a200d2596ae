import Orchestrator.Proofs.Daemon.Slots
import Orchestrator.Proofs.Http.Query
import Orchestrator.Proofs.Instant.Written
import Orchestrator.Store.Access

/-!
# What becomes of a request

A request is answered at once, becomes a socket if it asks for events, or waits for a slot of a queue
that has none if it asks for a job. Nothing else happens to it, with one exception: a request for
activity up to a time that has no day before it in the calendar ends in a panic, since the start of the
range is worked out even if the request gives it. The main statement is `answered_or_waiting`.
-/
namespace Orchestrator

/-! ## A day before -/

namespace Instant

/-- The calendar has a time a day earlier. On its first day only the leap second at the end of the day
has one, since it counts as the second after it. -/
def HasDayBefore (t : Instant) : Prop :=
  Calendar.minDays < t.days ∨ t.second = 86399 ∧ 1000000000 ≤ t.nano

instance (t : Instant) : Decidable t.HasDayBefore := inferInstanceAs (Decidable (_ ∨ _))

theorem ofParts?_eq_none {days : Int} {second nano : Nat} :
    ofParts? days second nano = none ↔ ¬ (Calendar.minDays ≤ days ∧ days ≤ Calendar.maxDays ∧
      second < 86400 ∧ nano < 2000000000 ∧ (1000000000 ≤ nano → second % 60 = 59)) := by
  unfold ofParts?
  split
  · rename_i h
    simp only [reduceCtorEq, false_iff, not_not]
    exact h
  · rename_i h
    simp only [true_iff]
    exact h

theorem addSeconds?_dayBefore (t : Instant) :
    t.addSeconds? (-Api.defaultRange) = none ↔ ¬ t.HasDayBefore := by
  have hmin := t.minDays_le
  have hmax := t.le_maxDays
  have hsecond := t.second_lt
  have hnano := t.nano_lt
  have hleap := t.leap_last
  have hfdiv : ∀ n : Int, Int.fdiv n 86400 = n / 86400 := fun n =>
    Int.fdiv_eq_ediv_of_nonneg n (by decide)
  have hneg : -Api.defaultRange = (-86400 : Int) := rfl
  unfold addSeconds? HasDayBefore
  rw [hneg, if_neg (by decide)]
  by_cases hcounts : 1000000000 ≤ t.nano
  · simp only [hcounts, true_and, if_true, hfdiv, ofParts?_eq_none, Int.reduceLT]
    by_cases hlast : t.second = 86399
    · -- the leap second counts as midnight, and a day before that is midnight
      have hday : ((t.second : Int) + 1 + -86400) / 86400 = 0 := by omega
      have hback : ((t.second : Int) + 1 + -86400 - 0 * 86400).toNat = 0 := by omega
      rw [hday, hback, Int.add_zero]
      simp only [hlast, or_true, not_true_eq_false, iff_false, not_not, true_and]
      exact ⟨hmin, hmax, by decide, by omega, by omega⟩
    · have hday : ((t.second : Int) + 1 + -86400) / 86400 = -1 := by omega
      have hback : ((t.second : Int) + 1 + -86400 - -1 * 86400).toNat = t.second + 1 := by omega
      rw [hday, hback]
      simp only [hlast, false_and, or_false]
      constructor
      · intro hnone hlt
        exact hnone ⟨by omega, by omega, by omega, by omega, by omega⟩
      · intro hfirst hsome
        omega
  · have hday : ((t.second : Int) + -86400) / 86400 = -1 := by omega
    have hback : ((t.second : Int) + -86400 - -1 * 86400).toNat = t.second := by omega
    simp only [hcounts, false_and, and_false, or_false, if_false, hfdiv, ofParts?_eq_none, hday, hback]
    constructor
    · intro hnone hlt
      exact hnone ⟨by omega, by omega, hsecond, hnano, False.elim⟩
    · intro hfirst hsome
      omega

end Instant

/-! ## Collections -/

namespace Store

theorem access?_named (s : Store) {collection : String} (h : collection ≠ "") (operation : Operation) :
    (s.access? collection operation).isSome := by
  cases operation with
  | valuesBetween low high =>
    simp only [access?, if_neg h]
    split <;> rfl
  | _ => simp only [access?, if_neg h, Option.isSome_some]

/-- The collections that requests touch all have names, whatever a request calls a deployment. -/
theorem access?_collections (s : Store) (deployment : String) (operation : Operation) :
    (s.access? deploymentCollection operation).isSome ∧
      (s.access? (secretCollection deployment) operation).isSome ∧
      (s.access? activityCollection operation).isSome :=
  ⟨s.access?_named (by decide) operation, s.access?_named (secretCollection_ne_empty deployment) operation,
    s.access?_named (by decide) operation⟩

end Store

/-! ## Requests -/

namespace Daemon

open Queue Engine

variable {s : Daemon}

/-- No arranged fault of the engine is a panic. -/
def NeverPanics (s : Daemon) : Prop := ∀ f ∈ s.engine.faults, f.kind ≠ .panic

theorem neverPanics_default : NeverPanics {} := by
  intro f hf
  cases hf

theorem useFault_ne_panic {faults : List Fault} (h : ∀ f ∈ faults, f.kind ≠ .panic) (kind : CallKind)
    (text : Option String) : (useFault kind faults).1 ≠ some (.panic text) := by
  induction faults with
  | nil => exact fun h => by cases h
  | cons f faults ih =>
    unfold useFault
    split
    · exact fun h => by cases h
    · split
      · have := h f List.mem_cons_self
        unfold Fault.failure
        split
        · exact fun h => by cases h
        · exact fun h => by cases h
        · rename_i hkind
          exact absurd hkind this
      · exact ih fun f' hf' => h f' (List.mem_cons_of_mem _ hf')

theorem serve_ne_panic (h : s.NeverPanics) (c : Call) (text : Option String) :
    (s.serve (.engine c)).1 ≠ .error (.panic text) := by
  intro hpanic
  have hfault := useFault_ne_panic h c.kind
  change (s.engine.serve s.stamp.1 c).1 = .error (.panic text) at hpanic
  unfold FaultyEngine.serve at hpanic
  dsimp only at hpanic
  split at hpanic
  · rename_i heq
    exact hfault _ heq
  · cases hpanic
  · have hmapped : (s.engine.memory.serve s.stamp.1 c).1.mapError Failure.error
        = .error (.panic text) := hpanic
    cases hout : (s.engine.memory.serve s.stamp.1 c).1 with
    | ok value =>
      rw [hout] at hmapped
      cases hmapped
    | error e =>
      rw [hout] at hmapped
      cases hmapped

/-- A job that a request brings is accepted or refused at once, or waits for want of a slot. -/
theorem queueJob_cases (h : s.queue.Orderly) (job : Job) :
    (∃ response, (s.queueJob job).1 = .answered response) ∨
      ∃ ticket, (s.queueJob job).1 = .waiting ticket ∧ s.queue.hasSlot = false := by
  have hwaits := @Orderly.enqueue_waiting s.queue s.nextTicket job h
  unfold queueJob Daemon.enqueue
  dsimp only
  cases hcame : s.queue.enqueue s.nextTicket job with
  | mk standing queue =>
    cases standing with
    | refused e => exact .inl ⟨_, rfl⟩
    | granted => exact .inl ⟨_, rfl⟩
    | waiting =>
      rw [hcame] at hwaits
      exact .inr ⟨_, rfl, hwaits rfl⟩

/-- Containers are listed, or the engine's error is the answer. -/
theorem listForRequest_cases (h : s.NeverPanics) (name : String)
    (answer : List Container → Daemon → Served × Daemon) :
    (∃ response, (s.listForRequest name answer).1 = .answered response) ∨
      ∃ containers t, t.queue = s.queue ∧
        (s.listForRequest name answer).1 = (answer containers t).1 := by
  have hreply := serve_ne_panic h (.list Container.ownerLabel name)
  unfold listForRequest
  rw [perform_listOwned]
  cases hlist : (s.serve (.engine (.list Container.ownerLabel name))).1 with
  | ok containers =>
    exact .inr ⟨containers, (s.serve (.engine (.list Container.ownerLabel name))).2, rfl, rfl⟩
  | error failure =>
    cases failure with
    | error e => exact .inl ⟨_, rfl⟩
    | panic text => exact absurd hlist (hreply text)

end Daemon

namespace Api

/-- A request for activity, read at a time, whose range ends where there is no day before. -/
def EndsTooSoon (now : Instant) (r : Http.Request) : Prop :=
  Action.ofRequest r = .ok .listActivity ∧
    ∃ q, ActivityQuery.ofParameters r.target.parameters = .ok q ∧ ¬ (q.stop.getD now).HasDayBefore

/-- What an action may take, besides a reply. -/
inductive Takes : Action → Plan → Prop where
  | reply (action : Action) (response : Http.Response) : Takes action (.reply response)
  | rollout (name : String) (config : Deployment) : Takes (.deploy name) (.queue .create config)
  | teardown (name : String) (config : Deployment) : Takes (.teardown name) (.queue .delete config)
  | orphans (name : String) : Takes (.teardown name) (.tearDownOrphans name)
  | containers (name : String) : Takes (.listContainers name) (.containers name)
  | follow (name : String) : Takes (.follow name) (.follow name)

/-- Records of finished jobs are replied, unless the range ends too soon. -/
theorem activity_cases (now : Instant) (q : ActivityQuery) (s : Store) :
    ((q.stop.getD now).HasDayBefore → ∃ response, activity now q s = .reply response) ∧
      (¬ (q.stop.getD now).HasDayBefore → activity now q s = .panic) := by
  have hback := Instant.addSeconds?_dayBefore (q.stop.getD now)
  unfold activity
  dsimp only
  cases hday : (q.stop.getD now).addSeconds? (-defaultRange) with
  | none =>
    rw [hday] at hback
    simp only [true_iff] at hback
    exact ⟨fun h => absurd h hback, fun _ => rfl⟩
  | some dayBefore =>
    rw [hday] at hback
    simp only [reduceCtorEq, false_iff, not_not] at hback
    exact ⟨fun _ => ⟨_, rfl⟩, fun h => absurd hback h⟩

/-- What an action takes, if the request has the body and the parameters that it needs. -/
theorem perform_takes {now : Instant} {r : Http.Request} {s : Store} {action : Action}
    (haction : Action.ofRequest r = .ok action) (hday : ¬ EndsTooSoon now r) {result : Plan × Store}
    (hperform : perform now r s action = .ok result) : Takes action result.1 := by
  cases action with
  | saveDeployment =>
    cases hbody : r.readBody (Deployment.ofJson .direct) with
    | error rejection =>
      simp only [perform, hbody] at hperform
      cases hperform
    | ok d =>
      simp only [perform, hbody] at hperform
      obtain rfl := Except.ok.inj hperform
      exact .reply _ _
  | addSecret name =>
    cases hbody : r.readBody SecretRequest.ofJson with
    | error rejection =>
      simp only [perform, hbody] at hperform
      cases hperform
    | ok given =>
      simp only [perform, hbody] at hperform
      obtain rfl := Except.ok.inj hperform
      exact .reply _ _
  | deploy name =>
    simp only [perform] at hperform
    split at hperform
    · obtain rfl := Except.ok.inj hperform
      exact .rollout name _
    · obtain rfl := Except.ok.inj hperform
      exact .reply _ _
  | teardown name =>
    simp only [perform] at hperform
    split at hperform
    · obtain rfl := Except.ok.inj hperform
      exact .teardown name _
    · obtain rfl := Except.ok.inj hperform
      exact .orphans name
    · obtain rfl := Except.ok.inj hperform
      exact .reply _ _
  | deleteSecret name key =>
    simp only [perform] at hperform
    split at hperform
    · obtain rfl := Except.ok.inj hperform
      exact .reply _ _
    · obtain rfl := Except.ok.inj hperform
      exact .reply _ _
  | listActivity =>
    cases hq : ActivityQuery.ofParameters r.target.parameters with
    | error rejection =>
      simp only [perform, hq] at hperform
      cases hperform
    | ok q =>
      simp only [perform, hq] at hperform
      obtain rfl := Except.ok.inj hperform
      have hbefore : (q.stop.getD now).HasDayBefore := by
        by_contra hno
        exact hday ⟨haction, q, hq, hno⟩
      obtain ⟨response, hreply⟩ := (activity_cases now q s).1 hbefore
      dsimp only
      rw [hreply]
      exact .reply _ _
  | listContainers name =>
    obtain rfl := Except.ok.inj hperform
    exact .containers name
  | follow name =>
    obtain rfl := Except.ok.inj hperform
    exact .follow name
  | listDeployments | getDeployment _ | deleteDeployment _ | listSecrets _ =>
    obtain rfl := Except.ok.inj hperform
    exact .reply _ _

/-- A plain name in a path is read as it is spelled. -/
theorem decodedName_plain {name : String}
    (h : name.toList.all (fun c => decide (Text.IsPlain c)) = true) : decodedName name = .ok name := by
  rw [decodedName, Http.segmentText?_plain h]

theorem plan_eq {now : Instant} {r : Http.Request} {action : Action} (s : Store)
    (haction : Action.ofRequest r = .ok action) :
    plan now r s = match perform now r s action with
      | .ok result => result
      | .error rejection => (.reply rejection.response, s) := by
  unfold plan
  rw [haction]
  rfl

/-- What answering a request takes: a reply, or what its action may take. -/
theorem plan_takes {now : Instant} {r : Http.Request} (s : Store) (hday : ¬ EndsTooSoon now r) :
    (∃ response, (plan now r s).1 = .reply response) ∨
      ∃ action, Action.ofRequest r = .ok action ∧ Takes action (plan now r s).1 := by
  cases haction : Action.ofRequest r with
  | error rejection =>
    unfold plan
    rw [haction]
    exact .inl ⟨_, rfl⟩
  | ok action =>
    rw [plan_eq s haction]
    cases hperform : perform now r s action with
    | error rejection => exact .inl ⟨_, rfl⟩
    | ok result => exact .inr ⟨action, rfl, perform_takes haction hday hperform⟩

/-- A range that ends too soon is not answered. -/
theorem plan_endsTooSoon {now : Instant} {r : Http.Request} (s : Store) (hday : EndsTooSoon now r) :
    plan now r s = (.panic, s) := by
  obtain ⟨haction, q, hq, hno⟩ := hday
  have hperform : perform now r s .listActivity = .ok (activity now q s, s) := by
    unfold perform
    rw [hq]
    rfl
  rw [plan_eq s haction, hperform, (activity_cases now q s).2 hno]

end Api

namespace Daemon

variable {s : Daemon}

/-- What the plan of a request comes to. -/
theorem carryOut_cases {t : Daemon} (ht : t.queue.Orderly) (hengine : t.NeverPanics)
    {action : Api.Action} {plan : Api.Plan} (htakes : Api.Takes action plan) :
    (∃ response, (t.carryOut plan).1 = .answered response) ∨
      (∃ name socket, action = .follow name ∧ (t.carryOut plan).1 = .following socket) ∨
      (∃ name ticket, (action = .deploy name ∨ action = .teardown name) ∧
        (t.carryOut plan).1 = .waiting ticket ∧ t.queue.hasSlot = false) := by
  cases htakes with
  | reply action response => exact .inl ⟨response, rfl⟩
  | rollout name config =>
    obtain hanswered | ⟨ticket, hwaiting, hfull⟩ :=
      queueJob_cases (orderly_newJob ht config.name (.create config [] []) t.apiAttempts)
        (t.newRollout config t.apiAttempts).1
    · exact .inl hanswered
    · exact .inr (.inr ⟨name, ticket, .inl rfl, hwaiting, hfull⟩)
  | teardown name config =>
    obtain hanswered | ⟨ticket, hwaiting, hfull⟩ :=
      queueJob_cases (orderly_newJob ht config.name (.delete config []) t.apiAttempts)
        (t.newTeardown config t.apiAttempts).1
    · exact .inl hanswered
    · exact .inr (.inr ⟨name, ticket, .inr rfl, hwaiting, hfull⟩)
  | orphans name =>
    obtain hanswered | ⟨containers, u, hqueue, hanswer⟩ := listForRequest_cases hengine name
      fun containers s =>
        if containers.isEmpty then (.answered Api.deploymentNotFound, s)
        else
          let made := s.newTeardown (Deployment.new name "") s.apiAttempts
          made.2.queueJob made.1
    · exact .inl hanswered
    · have hcarried : (t.carryOut (.tearDownOrphans name)).1 = _ := hanswer
      rw [hcarried]
      split
      · exact .inl ⟨_, rfl⟩
      · have hu : u.queue.Orderly := by
          rw [hqueue]
          exact ht
        obtain hanswered | ⟨ticket, hwaiting, hfull⟩ :=
          queueJob_cases
            (orderly_newJob hu name (.delete (Deployment.new name "") []) u.apiAttempts)
            (u.newTeardown (Deployment.new name "") u.apiAttempts).1
        · exact .inl hanswered
        · refine .inr (.inr ⟨name, ticket, .inr rfl, hwaiting, ?_⟩)
          rw [← hqueue]
          exact hfull
  | containers name =>
    obtain hanswered | ⟨containers, u, -, hanswer⟩ := listForRequest_cases hengine name
      fun containers s =>
        (.answered (Api.success 200 (Api.shownList Container.toJson containers)), s)
    · exact .inl hanswered
    · exact .inl ⟨_, hanswer⟩
  | follow name => exact .inr (.inl ⟨name, _, rfl, rfl⟩)

/-- What a request comes to, but for the body of a response that only the head is asked of, and the
daemon it leaves. -/
theorem request_eq (s : Daemon) (r : Http.Request) :
    ∃ t : Daemon, t.queue = s.queue ∧ t.engine = s.engine ∧
      t.store = (Api.plan s.stamp.1 r s.store).2 ∧
      (s.request r).1 =
        (match (t.carryOut (Api.plan s.stamp.1 r s.store).1).1 with
        | .answered response =>
          .answered (if r.method = "HEAD" then { response with body := none } else response)
        | served => served) ∧
      (s.request r).2 = (t.carryOut (Api.plan s.stamp.1 r s.store).1).2 := by
  refine ⟨{ s.stamp.2 with store := (Api.plan s.stamp.1 r s.store).2 }, rfl, rfl, rfl, ?_⟩
  have hstore : s.stamp.2.store = s.store := rfl
  unfold request
  dsimp only
  rw [hstore]
  generalize carryOut _ _ = served
  obtain ⟨served, u⟩ := served
  cases served <;> exact ⟨rfl, rfl⟩

/-- A request is answered at once, becomes a socket if it asks for events, or waits for a slot of a queue
that has none if it asks for a job. Only a request for activity up to a time with no day before it ends
in a panic. The store refuses access to none of the collections that a request may touch. -/
theorem answered_or_waiting (hs : s.Reachable) (hengine : s.NeverPanics) (r : Http.Request) :
    (¬ Api.EndsTooSoon s.stamp.1 r →
      (∃ response, (s.request r).1 = .answered response) ∨
      (∃ name socket, Api.Action.ofRequest r = .ok (.follow name) ∧
        (s.request r).1 = .following socket) ∨
      (∃ name ticket, (Api.Action.ofRequest r = .ok (.deploy name) ∨
        Api.Action.ofRequest r = .ok (.teardown name)) ∧
        (s.request r).1 = .waiting ticket ∧ s.queue.hasSlot = false)) ∧
    (Api.EndsTooSoon s.stamp.1 r → (s.request r).1 = .panicked) ∧
    ∀ deployment operation, (s.store.access? Store.deploymentCollection operation).isSome ∧
      (s.store.access? (secretCollection deployment) operation).isSome ∧
      (s.store.access? Store.activityCollection operation).isSome := by
  obtain ⟨t, hqueue, hfaults, -, hrequest, -⟩ := s.request_eq r
  have ht : t.queue.Orderly := by
    rw [hqueue]
    exact hs.orderly
  have hpanics : t.NeverPanics := by
    unfold NeverPanics
    rw [hfaults]
    exact hengine
  refine ⟨?_, ?_, s.store.access?_collections⟩
  · intro hday
    rw [hrequest]
    obtain ⟨response, hreply⟩ | ⟨action, haction, htakes⟩ := Api.plan_takes s.store hday
    · rw [hreply]
      exact .inl ⟨_, rfl⟩
    · obtain ⟨response, hcarried⟩ | ⟨name, socket, rfl, hcarried⟩ | ⟨name, ticket, hname, hcarried, hfull⟩ :=
        carryOut_cases ht hpanics htakes
      · rw [hcarried]
        exact .inl ⟨_, rfl⟩
      · rw [hcarried]
        exact .inr (.inl ⟨name, socket, haction, rfl⟩)
      · rw [hcarried]
        rw [hqueue] at hfull
        obtain rfl | rfl := hname
        · exact .inr (.inr ⟨name, ticket, .inl haction, rfl, hfull⟩)
        · exact .inr (.inr ⟨name, ticket, .inr haction, rfl, hfull⟩)
  · intro hday
    rw [hrequest, Api.plan_endsTooSoon s.store hday]
    rfl

/-- A request for the activity of the last day. -/
def lastDay : Http.Request where
  method := "GET"
  target := ⟨"/api/v1/activity".toList, []⟩
  contentType := none
  body := ""
  upgrades := false

theorem answered_or_waiting_lastDay :
    (∃ response, (({} : Daemon).request lastDay).1 = .answered response) ∨
      (∃ name socket, Api.Action.ofRequest lastDay = .ok (.follow name) ∧
        (({} : Daemon).request lastDay).1 = .following socket) ∨
      (∃ name ticket, (Api.Action.ofRequest lastDay = .ok (.deploy name) ∨
        Api.Action.ofRequest lastDay = .ok (.teardown name)) ∧
        (({} : Daemon).request lastDay).1 = .waiting ticket ∧ ({} : Daemon).queue.hasSlot = false) := by
  refine (answered_or_waiting (.opening 1 rfl) neverPanics_default lastDay).1 ?_
  rintro ⟨-, q, hq, hno⟩
  obtain rfl := Except.ok.inj hq
  exact hno (.inl (by decide))

/-- The first time there is. -/
def firstInstant : Instant :=
  { Instant.epoch with
    days := Calendar.minDays, minDays_le := Int.le_refl _, le_maxDays := by decide }

/-- A request for the activity from and up to the first time there is. -/
def upToFirst : Http.Request where
  method := "GET"
  target := ⟨"/api/v1/activity".toList,
    "from=-262143-01-01T00:00:00Z&to=-262143-01-01T00:00:00Z".toList⟩
  contentType := none
  body := ""
  upgrades := false

theorem parameters_upToFirst :
    upToFirst.target.parameters = [("from", firstInstant.render), ("to", firstInstant.render)] := by
  have hpieces : (Http.Target.pieces '&' upToFirst.target.query).filter (· ≠ [])
      = ["from=-262143-01-01T00:00:00Z".toList, "to=-262143-01-01T00:00:00Z".toList] := by decide
  unfold Http.Target.parameters
  rw [hpieces]
  simp only [List.map_cons, List.map_nil]
  rw [Http.queryText_plain (by decide), Http.queryText_plain (by decide),
    Http.queryText_plain (by decide), Http.queryText_plain (by decide)]
  decide

/-- Both bounds can be read, and yet the request ends in a panic. -/
theorem panics_upToFirst :
    Http.Request.build? "GET"
        "/api/v1/activity?from=-262143-01-01T00:00:00Z&to=-262143-01-01T00:00:00Z" none "" false
      = some upToFirst ∧
    Api.ActivityQuery.ofParameters upToFirst.target.parameters
      = .ok ⟨some firstInstant, some firstInstant, none⟩ ∧
    Reachable {} ∧ NeverPanics {} ∧ (({} : Daemon).request upToFirst).1 = .panicked := by
  have hread : Api.ActivityQuery.ofParameters upToFirst.target.parameters
      = .ok ⟨some firstInstant, some firstInstant, none⟩ := by
    rw [parameters_upToFirst]
    simp [Api.ActivityQuery.ofParameters, Api.timeParameter?, Api.parameter?, Instant.ofText?_render,
      bind, Except.bind, pure, Except.pure]
  have hday : Api.EndsTooSoon ({} : Daemon).stamp.1 upToFirst :=
    ⟨by rfl, _, hread, by decide⟩
  refine ⟨by decide, hread, .opening 1 rfl, neverPanics_default, ?_⟩
  obtain ⟨t, -, -, -, hrequest, -⟩ := ({} : Daemon).request_eq upToFirst
  rw [hrequest, Api.plan_endsTooSoon _ hday]
  rfl

end Daemon

end Orchestrator
