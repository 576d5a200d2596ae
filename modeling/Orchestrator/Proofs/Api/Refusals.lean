import Orchestrator.Proofs.Api.Answers
import Orchestrator.Proofs.Store.Deployments

/-!
# What a refused request leaves

A request that is answered with a status of 400 or above has left the queue and the engine's containers
and networks as they were, and the store too, but for one thing: to delete a secret that is not there
makes the collection of the deployment's secrets if there was none. A request that has to wait for a
slot and is refused later changes nothing either, but that it stood in the line of those who wait. The
main statement is `refused_keeps`; `refused_makes` is the collection that is made.
-/
namespace Orchestrator

/-! ## Plans -/

namespace Api

/-- What may be replied by an action that has changed the store. -/
inductive Changed (action : Action) (s t : Store) : Plan → Prop where
  | success {response : Http.Response} (hstatus : response.status < 400) : Changed action s t (.reply response)
  /-- A secret that is to be deleted is not there, and its collection is made. -/
  | absent {name key : String} {response : Http.Response} (haction : action = .deleteSecret name key)
    (hmade : t = s.create (secretCollection name)) : Changed action s t (.reply response)

/-- An action that does not succeed leaves the store, or makes a collection of secrets. -/
theorem perform_changed {now : Instant} {r : Http.Request} {s : Store} {action : Action}
    (hs : s.collections.contains Store.deploymentCollection = true) {result : Plan × Store}
    (hperform : perform now r s action = .ok result) :
    result.2 = s ∨ Changed action s result.2 result.1 := by
  cases action with
  | saveDeployment =>
    cases hbody : r.readBody (Deployment.ofJson .direct) with
    | error rejection =>
      simp only [perform, hbody] at hperform
      cases hperform
    | ok d =>
      simp only [perform, hbody] at hperform
      obtain rfl := Except.ok.inj hperform
      cases hsaved : (s.saveDeployment d).1 with
      | error e => exact .inl (Store.saveDeployment_refused hsaved)
      | ok saved => exact .inr (.success (by decide : 201 < 400))
  | deleteDeployment name =>
    rcases hdeleted : s.deleteDeployment name with ⟨existed, t⟩
    simp only [perform, hdeleted] at hperform
    obtain rfl := Except.ok.inj hperform
    cases existed with
    | true => exact .inr (.success (by decide))
    | false =>
      have habsent : (s.deleteDeployment name).1 = false := congrArg Prod.fst hdeleted
      refine .inl ((congrArg Prod.snd hdeleted).symm.trans ?_)
      exact (Store.remove_absent habsent).trans (Store.create_eq_self hs)
  | addSecret name =>
    cases hbody : r.readBody SecretRequest.ofJson with
    | error rejection =>
      simp only [perform, hbody] at hperform
      cases hperform
    | ok given =>
      simp only [perform, hbody] at hperform
      obtain rfl := Except.ok.inj hperform
      cases hadded : (s.addSecret name given.key given.value).1 with
      | error e => exact .inl (Store.addSecret_refused hadded)
      | ok added => exact .inr (.success (by decide : 201 < 400))
  | deleteSecret name key =>
    simp only [perform] at hperform
    split at hperform
    · obtain rfl := Except.ok.inj hperform
      exact .inr (.success (by decide))
    · rename_i e t hdeleted
      obtain rfl := Except.ok.inj hperform
      refine .inr (.absent rfl ?_)
      cases hexisted : (s.remove (secretCollection name) key).1 with
      | true =>
        simp only [Store.deleteSecret, hexisted] at hdeleted
        cases hdeleted
      | false =>
        rw [← Store.remove_absent hexisted]
        exact (congrArg Prod.snd hdeleted).symm
  | deploy name =>
    simp only [perform] at hperform
    split at hperform <;> obtain rfl := Except.ok.inj hperform <;> exact .inl rfl
  | teardown name =>
    simp only [perform] at hperform
    split at hperform <;> obtain rfl := Except.ok.inj hperform <;> exact .inl rfl
  | listActivity =>
    cases hq : ActivityQuery.ofParameters r.target.parameters with
    | error rejection =>
      simp only [perform, hq] at hperform
      cases hperform
    | ok q =>
      simp only [perform, hq] at hperform
      obtain rfl := Except.ok.inj hperform
      exact .inl rfl
  | listDeployments | getDeployment _ | listContainers _ | listSecrets _ | follow _ =>
    obtain rfl := Except.ok.inj hperform
    exact .inl rfl

/-- So does every request, whether it gets to its action or not. -/
theorem plan_changed (now : Instant) (r : Http.Request) {s : Store}
    (hs : s.collections.contains Store.deploymentCollection = true) :
    (plan now r s).2 = s ∨
      ∃ action, Action.ofRequest r = .ok action ∧ Changed action s (plan now r s).2 (plan now r s).1 := by
  cases haction : Action.ofRequest r with
  | error rejection =>
    refine .inl ?_
    unfold plan
    rw [haction]
    rfl
  | ok action =>
    rw [plan_eq s haction]
    cases hperform : perform now r s action with
    | error rejection => exact .inl rfl
    | ok result =>
      obtain hsame | hchanged := perform_changed hs hperform
      · exact .inl hsame
      · exact .inr ⟨action, rfl, hchanged⟩

end Api

/-! ## Carrying plans out -/

namespace Daemon

open Queue Engine

variable {s t u : Daemon}

/-- What a daemon keeps while it refuses something: the records, the jobs, and what the engine has. -/
structure Keeps (s t : Daemon) : Prop where
  store : t.store = s.store
  queue : t.queue = s.queue
  memory : t.engine.memory = s.engine.memory

theorem Keeps.refl (s : Daemon) : Keeps s s := ⟨rfl, rfl, rfl⟩

theorem Keeps.trans (h : Keeps s t) (h' : Keeps t u) : Keeps s u :=
  ⟨h'.store.trans h.store, h'.queue.trans h.queue, h'.memory.trans h.memory⟩

/-- To list containers changes none. -/
theorem keeps_list (s : Daemon) (label value : String) :
    Keeps s (s.serve (.engine (.list label value))).2 := by
  refine ⟨rfl, rfl, ?_⟩
  change (s.engine.serve s.stamp.1 (.list label value)).2.memory = s.engine.memory
  unfold FaultyEngine.serve
  dsimp only
  split <;> rfl

/-- What serving keeps: a refusal all, and waiting all but the line of those who wait. -/
def Sparing (s : Daemon) : Served × Daemon → Prop
  | (.answered response, t) => 400 ≤ response.status → Keeps s t
  | (.waiting ticket, t) =>
    Keeps { s with queue := { s.queue with waiting := s.queue.waiting ++ [ticket] } } t
  | _ => True

/-- What is spared after something that keeps everything is spared from before. -/
theorem Sparing.of_keeps (hkeeps : Keeps s t) {served : Served × Daemon} (h : Sparing t served) :
    Sparing s served := by
  obtain ⟨served, u⟩ := served
  cases served with
  | answered response => exact fun hstatus => hkeeps.trans (h hstatus)
  | waiting ticket =>
    have hwaits : Keeps { t with queue := { t.queue with waiting := t.queue.waiting ++ [ticket] } } u := h
    rw [hkeeps.queue] at hwaits
    exact ⟨hwaits.store.trans hkeeps.store, hwaits.queue, hwaits.memory.trans hkeeps.memory⟩
  | following socket => trivial
  | panicked => trivial

/-- A job that is refused, or waits, keeps the rest. -/
theorem sparing_queueJob (h : s.queue.Orderly) (job : Job) : Sparing s (s.queueJob job) := by
  unfold queueJob Daemon.enqueue
  dsimp only
  cases hcame : s.queue.enqueue s.nextTicket job with
  | mk standing queue =>
    cases standing with
    | refused e => exact fun _ => ⟨rfl, enqueue_refused hcame, rfl⟩
    | granted => exact fun (hstatus : 400 ≤ 202) => absurd hstatus (by decide)
    | waiting => exact ⟨rfl, h.enqueue_waits hcame, rfl⟩

theorem sparing_queueNew (h : s.queue.Orderly) (scope : String) (work : Work) (attempts : UInt32) :
    Sparing s ((s.newJob scope work attempts).2.queueJob (s.newJob scope work attempts).1) := by
  have hmade : Keeps s (s.newJob scope work attempts).2 := ⟨rfl, rfl, rfl⟩
  exact (sparing_queueJob (orderly_newJob h scope work attempts) _).of_keeps hmade

theorem sparing_listForRequest {name : String} {answer : List Container → Daemon → Served × Daemon}
    (h : ∀ containers t, Keeps s t → Sparing t (answer containers t)) :
    Sparing s (s.listForRequest name answer) := by
  have hlisted := s.keeps_list Container.ownerLabel name
  unfold listForRequest
  rw [perform_listOwned]
  split
  · rename_i heq
    obtain ⟨-, rfl⟩ := Prod.mk.inj heq
    exact (h _ _ hlisted).of_keeps hlisted
  · rename_i heq
    obtain ⟨-, rfl⟩ := Prod.mk.inj heq
    exact fun _ => hlisted
  · trivial

/-- Whatever a plan comes to, a refusal keeps everything. -/
theorem sparing_carryOut (h : s.queue.Orderly) (plan : Api.Plan) : Sparing s (s.carryOut plan) := by
  cases plan with
  | reply response => exact fun _ => .refl s
  | queue kind config =>
    cases kind with
    | create => exact sparing_queueNew h config.name (.create config [] []) s.apiAttempts
    | delete => exact sparing_queueNew h config.name (.delete config []) s.apiAttempts
  | tearDownOrphans name =>
    refine sparing_listForRequest fun containers t hlisted => ?_
    have ht : t.queue.Orderly := by
      rw [hlisted.queue]
      exact h
    dsimp only
    split
    · exact fun _ => .refl t
    · exact sparing_queueNew ht name (.delete (Deployment.new name "") []) t.apiAttempts
  | containers name => exact sparing_listForRequest fun _ t _ _ => .refl t
  | follow name => trivial
  | panic => trivial

/-- A producer that waited and is refused changes nothing. -/
theorem keeps_stepProducer {ticket : Ticket} {e : JobError} (hnew : s.outcome? ticket = none)
    (hstep : s.stepProducer ticket = some t) (hrefused : t.outcome? ticket = some (.error e)) :
    Keeps s t := by
  unfold stepProducer at hstep
  obtain ⟨producer, -, hstep⟩ := Option.bind_eq_some_iff.1 hstep
  dsimp only at hstep
  split at hstep
  · cases hstep
  · -- with a slot the job is queued, and that is told
    obtain rfl := Option.some.inj hstep
    have hnone : s.outcomes.find? (fun o => o.1 = ticket) = none := Option.map_eq_none_iff.1 hnew
    simp [outcome?, List.find?_append, hnone] at hrefused
  · obtain rfl := Option.some.inj hstep
    exact ⟨rfl, rfl, rfl⟩

/-! ## Requests -/

/-- What is asked of the head alone is spared alike. -/
theorem sparing_request (h : s.queue.Orderly) (r : Http.Request) :
    ∃ t : Daemon, t.queue = s.queue ∧ t.engine = s.engine ∧ t.store = (Api.plan s.stamp.1 r s.store).2 ∧
      Sparing t (s.request r) := by
  obtain ⟨t, hqueue, hengine, hstore, hserved, hafter⟩ := s.request_eq r
  refine ⟨t, hqueue, hengine, hstore, ?_⟩
  have ht : t.queue.Orderly := by
    rw [hqueue]
    exact h
  have hspared := sparing_carryOut ht (Api.plan s.stamp.1 r s.store).1
  rcases hcarried : t.carryOut (Api.plan s.stamp.1 r s.store).1 with ⟨served, u⟩
  rw [hcarried] at hspared hserved hafter
  rw [← Prod.eta (s.request r), hserved, hafter]
  cases served with
  | answered response =>
    intro hstatus
    split at hstatus <;> exact hspared hstatus
  | waiting ticket => exact hspared
  | following socket => trivial
  | panicked => trivial

/-- A reply is answered with its status, and leaves the store as planned. -/
theorem request_reply {r : Http.Request} {response : Http.Response}
    (h : (Api.plan s.stamp.1 r s.store).1 = .reply response) :
    (∃ shown, (s.request r).1 = .answered shown ∧ shown.status = response.status) ∧
      (s.request r).2.store = (Api.plan s.stamp.1 r s.store).2 := by
  obtain ⟨t, -, -, hstore, hserved, hafter⟩ := s.request_eq r
  rw [hserved, hafter, ← hstore, h]
  refine ⟨⟨_, rfl, ?_⟩, rfl⟩
  split <;> rfl

/-- What happens to the store when a request is refused, or waits. -/
theorem store_request (hstore : s.store.Written) {r : Http.Request}
    (h : ∀ response, (s.request r).1 = .answered response → 400 ≤ response.status) :
    (Api.plan s.stamp.1 r s.store).2 = s.store ∨
      (∃ response, (s.request r).1 = .answered response) ∧
        ∃ name key, Api.Action.ofRequest r = .ok (.deleteSecret name key) ∧
          (Api.plan s.stamp.1 r s.store).2 = s.store.create (secretCollection name) := by
  obtain hsame | ⟨action, haction, hchanged⟩ := Api.plan_changed s.stamp.1 r hstore.contains_deployments
  · exact .inl hsame
  · right
    generalize hplan : (Api.plan s.stamp.1 r s.store).1 = plan at hchanged
    cases hchanged with
    | success hsuccess =>
      obtain ⟨⟨shown, hshown, hstatus⟩, -⟩ := request_reply hplan
      have := h shown hshown
      omega
    | absent hdelete hmade =>
      obtain ⟨⟨shown, hshown, -⟩, -⟩ := request_reply hplan
      rw [hdelete] at haction
      exact ⟨⟨shown, hshown⟩, _, _, haction, hmade⟩

/-- A request that is refused keeps the queue and the engine's containers and networks, and the store as
well, but that an empty collection of secrets may be made where one is to be deleted. So does a request
that waits, which only stands in line from then on, and when it is refused after that, nothing changes. -/
theorem refused_keeps (hs : s.Reachable) (hstore : s.store.Written) (r : Http.Request) :
    (∀ response, (s.request r).1 = .answered response → 400 ≤ response.status →
      (s.request r).2.queue = s.queue ∧ (s.request r).2.engine.memory = s.engine.memory ∧
        ((s.request r).2.store = s.store ∨
          ∃ name key, Api.Action.ofRequest r = .ok (.deleteSecret name key) ∧
            (s.request r).2.store = s.store.create (secretCollection name))) ∧
    (∀ ticket, (s.request r).1 = .waiting ticket →
      Keeps { s with queue := { s.queue with waiting := s.queue.waiting ++ [ticket] } }
        (s.request r).2) ∧
    (∀ (t u : Daemon) (ticket : Ticket) (response : Http.Response), t.outcome? ticket = none →
      t.stepProducer ticket = some u → u.standing (.waiting ticket) = .answered response →
      400 ≤ response.status → Keeps t u) := by
  obtain ⟨t, hqueue, hengine, hplanned, hspared⟩ := sparing_request hs.orderly r
  rw [← Prod.eta (s.request r)] at hspared
  refine ⟨fun response hresponse hstatus => ?_, fun ticket hwaiting => ?_, ?_⟩
  · rw [hresponse] at hspared
    have hkeeps : Keeps t (s.request r).2 := hspared hstatus
    refine ⟨hkeeps.queue.trans hqueue, hkeeps.memory.trans (congrArg _ hengine), ?_⟩
    rw [hkeeps.store, hplanned]
    obtain hsame | ⟨-, hmade⟩ := store_request hstore fun other hother => by
      rw [hresponse] at hother
      obtain rfl := Served.answered.inj hother
      exact hstatus
    · exact .inl hsame
    · exact .inr hmade
  · rw [hwaiting] at hspared
    have hkeeps : Keeps { t with queue := { t.queue with waiting := t.queue.waiting ++ [ticket] } }
        (s.request r).2 := hspared
    rw [hqueue] at hkeeps
    have hnever (response : Http.Response) : (s.request r).1 ≠ .answered response := by
      rw [hwaiting]
      exact Served.noConfusion
    obtain hsame | ⟨⟨response, hanswered⟩, -⟩ := store_request hstore fun response h => absurd h (hnever response)
    · exact ⟨hkeeps.store.trans (hplanned.trans hsame), hkeeps.queue,
        hkeeps.memory.trans (congrArg _ hengine)⟩
    · exact absurd hanswered (hnever response)
  · intro t u ticket response hnew hstep hanswered hstatus
    unfold standing at hanswered
    dsimp only at hanswered
    split at hanswered
    · rename_i outcome houtcome
      obtain rfl := Served.answered.inj hanswered
      cases outcome with
      | ok id => exact absurd hstatus (by decide : ¬ 400 ≤ 202)
      | error e => exact keeps_stepProducer hnew hstep houtcome
    · cases hanswered

/-- A request to delete a deployment. -/
def deleteApi : Http.Request where
  method := "DELETE"
  target := ⟨"/api/v1/deployments/api".toList, []⟩
  contentType := none
  body := ""
  upgrades := false

/-- A deployment that is not there is not deleted, and nothing is changed. -/
theorem refused_keeps_deleteApi :
    Reachable {} ∧ ({} : Daemon).store.Written ∧
      ∃ response, (({} : Daemon).request deleteApi).1 = .answered response ∧ 400 ≤ response.status ∧
        (({} : Daemon).request deleteApi).2.queue = ({} : Daemon).queue ∧
        (({} : Daemon).request deleteApi).2.store = ({} : Daemon).store := by
  have hreachable : Reachable {} := .opening 1 rfl
  have hwritten : ({} : Daemon).store.Written := .new
  have haction : Api.Action.ofRequest deleteApi = .ok (.deleteDeployment "api") := by
    have hspelled : Api.Action.spelled deleteApi = .ok (.deleteDeployment "api") := by decide
    have hname : Api.decodedName "api" = .ok "api" := Api.decodedName_plain (by decide)
    rw [Api.Action.ofRequest, hspelled]
    change Api.Action.deleteDeployment <$> Api.decodedName "api" = _
    rw [hname]
    rfl
  have hplan : (Api.plan ({} : Daemon).stamp.1 deleteApi ({} : Daemon).store).1
      = .reply Api.deploymentNotFound := by
    rw [Api.plan_eq _ haction]
    rfl
  obtain ⟨⟨response, hanswered, hstatus⟩, -⟩ := request_reply hplan
  have hrefused : 400 ≤ response.status := by
    rw [hstatus]
    decide
  obtain ⟨hqueue, -, hstore⟩ := (refused_keeps hreachable hwritten deleteApi).1 response hanswered hrefused
  refine ⟨hreachable, hwritten, response, hanswered, hrefused, hqueue, ?_⟩
  obtain hsame | ⟨name, key, hother, -⟩ := hstore
  · exact hsame
  · rw [haction] at hother
    cases hother

/-- A request to delete a secret. -/
def deleteToken : Http.Request where
  method := "DELETE"
  target := ⟨"/api/v1/deployments/api/secrets/token".toList, []⟩
  contentType := none
  body := ""
  upgrades := false

/-- Of a secret that is not there it is answered that it is not found, and yet there is a collection of
secrets then that was not there before. -/
theorem refused_makes :
    Http.Request.build? "DELETE" "/api/v1/deployments/api/secrets/token" none "" false = some deleteToken ∧
      Reachable {} ∧ ({} : Daemon).store.Written ∧
      (∃ response, (({} : Daemon).request deleteToken).1 = .answered response ∧ response.status = 404) ∧
      ({} : Daemon).store.collections.contains "api-secrets" = false ∧
      (({} : Daemon).request deleteToken).2.store.collections.contains "api-secrets" = true := by
  have haction : Api.Action.ofRequest deleteToken = .ok (.deleteSecret "api" "token") := by
    have hspelled : Api.Action.spelled deleteToken = .ok (.deleteSecret "api" "token") := by decide
    have hname : Api.decodedName "api" = .ok "api" := Api.decodedName_plain (by decide)
    have hkey : Api.decodedName "token" = .ok "token" := Api.decodedName_plain (by decide)
    rw [Api.Action.ofRequest, hspelled]
    change Api.Action.deleteSecret <$> Api.decodedName "api" <*> Api.decodedName "token" = _
    rw [hname, hkey]
    rfl
  have hplan : Api.plan ({} : Daemon).stamp.1 deleteToken ({} : Daemon).store
      = (.reply (Api.storeFailure (.unknownSecret "token" "api")), Store.new.create "api-secrets") := by
    rw [Api.plan_eq _ haction]
    rfl
  obtain ⟨hanswered, hstore⟩ := request_reply (congrArg Prod.fst hplan)
  refine ⟨by decide, .opening 1 rfl, .new, hanswered, by decide, ?_⟩
  rw [hstore, hplan]
  decide

end Daemon

end Orchestrator
