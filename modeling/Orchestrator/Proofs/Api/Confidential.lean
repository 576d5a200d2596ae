import Orchestrator.Daemon.Control
import Orchestrator.Proofs.Api.Answers
import Orchestrator.Proofs.Daemon.Alike

/-!
# Values of secrets are not shown

Two daemons that are alike, and are asked the same, or are given secrets under the same keys with
different values, answer the same and stay alike (`Alike.request`). So from one daemon on, whatever comes
to it and whoever acts in it in whatever order, what is answered, what is sent to followers and clients,
and what is recorded of finished jobs does not depend on the values that secrets are given
(`unseen_values`).
-/
namespace Orchestrator

open Store

/-! ## What answering a request takes -/

namespace Api

open Http

variable {s s' : Store}

theorem SecretRequest.ofJson_record (key value : String) :
    ofJson (Json.record [("key", Json.text key), ("value", Json.text value)]) = .ok ⟨key, value⟩ := by
  rw [ofJson, Json.asRecord_record]
  · simp [Json.Given.get, Json.Given.value?, bind, Except.bind, pure, Except.pure]
  · simp [Json.Fills, Json.required, Except.map]
  · simp

/-- Secrets are shown by what is left of them without their values. -/
theorem storeAnswer_shown (status : Nat) {found found' : Except StoreError Secret}
    (h : found.map Secret.redacted = found'.map Secret.redacted) :
    storeAnswer status shownSecret found = storeAnswer status shownSecret found' := by
  have shown (found : Except StoreError Secret) : storeAnswer status shownSecret found
      = storeAnswer status Secret.toJson (found.map Secret.redacted) := by cases found <;> rfl
  rw [shown, shown, h]

theorem storeAnswer_shownList (status : Nat) {found found' : Except StoreError (List Secret)}
    (h : found.map (List.map Secret.redacted) = found'.map (List.map Secret.redacted)) :
    storeAnswer status (shownList shownSecret) found = storeAnswer status (shownList shownSecret) found' := by
  have shown (found : Except StoreError (List Secret)) : storeAnswer status (shownList shownSecret) found
      = storeAnswer status (shownList Secret.toJson) (found.map (List.map Secret.redacted)) := by
    cases found with
    | error e => rfl
    | ok secrets =>
      simp only [storeAnswer, shownList, Except.map, List.map_map]
      rfl
  rw [shown, shown, h]

theorem activity_alike (h : s.Alike s') (now : Instant) (q : ActivityQuery) :
    activity now q s = activity now q s' := by
  have hbetween := h.activityBetween
  unfold activity activityFor
  simp only [hbetween]

/-- Plans are refused alike, or are the same and leave stores alike. -/
inductive Agree : Except Rejection (Plan × Store) → Except Rejection (Plan × Store) → Prop
  | refused (e : Rejection) : Agree (.error e) (.error e)
  | planned {s s' : Store} (plan : Plan) (h : s.Alike s') : Agree (.ok (plan, s)) (.ok (plan, s'))

theorem perform_alike (h : s.Alike s') (now : Instant) (r : Http.Request) (action : Action) :
    Agree (perform now r s action) (perform now r s' action) := by
  cases action with
  | listDeployments =>
    rw [perform, perform, h.listed]
    exact .planned _ h
  | saveDeployment =>
    unfold perform
    rcases r.readBody (Deployment.ofJson .direct) with e | given
    · exact .refused e
    · obtain ⟨hsaved, hafter⟩ := h.saveDeployment given
      change Agree (.ok (.reply (storeAnswer 201 Deployment.toJson (s.saveDeployment given).1), _)) _
      rw [hsaved]
      exact .planned _ hafter
  | getDeployment name =>
    rw [perform, perform, h.getDeployment]
    exact .planned _ h
  | deleteDeployment name =>
    obtain ⟨hexisted, hafter⟩ := h.deleteDeployment name
    rw [perform, perform]
    dsimp only
    rw [hexisted]
    exact .planned _ hafter
  | deploy name =>
    rw [perform, perform, h.getDeployment]
    rcases s'.getDeployment name with e | config
    · exact .planned _ h
    · exact .planned _ h
  | teardown name =>
    rw [perform, perform, h.findDeployment]
    rcases s'.findDeployment name with e | _ | config
    · exact .planned _ h
    · exact .planned _ h
    · exact .planned _ h
  | listContainers name => exact .planned _ h
  | listSecrets name =>
    rw [perform, perform, storeAnswer_shownList 200 (h.listedSecrets name)]
    exact .planned _ h
  | addSecret name =>
    unfold perform
    rcases r.readBody SecretRequest.ofJson with e | given
    · exact .refused e
    · obtain ⟨hadded, hafter⟩ := h.addSecret name given.key given.value given.value
      change Agree (.ok (.reply (storeAnswer 201 shownSecret (s.addSecret name given.key given.value).1), _)) _
      rw [storeAnswer_shown 201 hadded]
      exact .planned _ hafter
  | deleteSecret name key =>
    obtain ⟨hdeleted, hafter⟩ := h.deleteSecret name key
    unfold perform
    dsimp only
    generalize s.deleteSecret name key = found, s'.deleteSecret name key = found' at hdeleted hafter
    obtain ⟨outcome, t⟩ := found
    obtain ⟨outcome', t'⟩ := found'
    obtain rfl := hdeleted
    rcases outcome with e | u
    · exact .planned _ hafter
    · exact .planned _ hafter
  | follow name => exact .planned _ h
  | listActivity =>
    unfold perform
    rcases ActivityQuery.ofParameters r.target.parameters with e | q
    · exact .refused e
    · change Agree (.ok (activity now q s, s)) (.ok (activity now q s', s'))
      rw [activity_alike h]
      exact .planned _ h

/-- The same request takes the same of alike stores, and leaves them alike. -/
theorem plan_alike (h : s.Alike s') (now : Instant) (r : Http.Request) :
    (plan now r s).1 = (plan now r s').1 ∧ (plan now r s).2.Alike (plan now r s').2 := by
  rcases haction : Action.ofRequest r with e | action
  · unfold plan
    rw [haction]
    exact ⟨rfl, h⟩
  · have hagree := perform_alike h now r action
    rw [plan_eq s haction, plan_eq s' haction]
    generalize perform now r s action = x, perform now r s' action = x' at hagree
    cases hagree with
    | refused e => exact ⟨rfl, h⟩
    | planned plan hafter => exact ⟨rfl, hafter⟩

/-- So do requests that add secrets under the same key, whatever their values are. -/
theorem plan_addSecret_alike (h : s.Alike s') (now : Instant) {r r' : Http.Request} {name : String}
    {given given' : SecretRequest} (haction : Action.ofRequest r = .ok (.addSecret name))
    (haction' : Action.ofRequest r' = .ok (.addSecret name))
    (hread : r.readBody SecretRequest.ofJson = .ok given)
    (hread' : r'.readBody SecretRequest.ofJson = .ok given') (hkey : given.key = given'.key) :
    (plan now r s).1 = (plan now r' s').1 ∧ (plan now r s).2.Alike (plan now r' s').2 := by
  obtain ⟨hadded, hafter⟩ := h.addSecret name given.key given.value given'.value
  rw [hkey] at hadded hafter
  rw [plan_eq s haction, plan_eq s' haction', perform, perform, hread, hread']
  dsimp only [Bind.bind, Except.bind]
  rw [hkey]
  exact ⟨congrArg Plan.reply (storeAnswer_shown 201 hadded), hafter⟩

end Api

/-! ## Answers -/

namespace Daemon

open Engine.FaultyEngine (bare_eq_iff)

variable {s s' : Daemon}

/-- What is served is the same, and leaves the daemons alike. -/
def SameServed (x x' : Served × Daemon) : Prop := x.1 = x'.1 ∧ x.2.Alike x'.2

theorem Alike.queueJob (h : s.Alike s') (job : Job) : SameServed (s.queueJob job) (s'.queueJob job) := by
  obtain ⟨hstore, hengine, hpool, hwatch⟩ := h
  unfold Daemon.queueJob enqueue
  dsimp only
  rcases s.queue.enqueue s.nextTicket job with ⟨standing, queue⟩
  cases standing with
  | refused e => exact ⟨rfl, .of hstore hengine hpool hwatch⟩
  | granted => exact ⟨rfl, .of hstore hengine hpool hwatch⟩
  | waiting => exact ⟨rfl, .of hstore hengine hpool hwatch⟩

theorem Alike.queueNew (h : s.Alike s') (scope : String) (work : Work) (attempts : UInt32) :
    SameServed ((s.newJob scope work attempts).2.queueJob (s.newJob scope work attempts).1)
      ((s'.newJob scope work attempts).2.queueJob (s'.newJob scope work attempts).1) := by
  obtain ⟨hstore, hengine, hpool, hwatch⟩ := h
  refine queueJob ?_ _
  exact .of hstore hengine hpool hwatch

theorem Alike.listForRequest (h : s.Alike s') (name : String)
    {answer answer' : List Container → Daemon → Served × Daemon}
    (hanswer : ∀ containers t t', t.Alike t' → SameServed (answer containers t) (answer' containers t')) :
    SameServed (s.listForRequest name answer) (s'.listForRequest name answer') := by
  obtain ⟨hlisted, hafter⟩ := h.serve (r := .engine (.list Container.ownerLabel name)) rfl
  unfold Daemon.listForRequest
  rw [perform_listOwned, perform_listOwned, ← hlisted]
  rcases (s.serve (.engine (.list Container.ownerLabel name))).1 with (e | text) | containers
  · exact ⟨rfl, hafter⟩
  · exact ⟨rfl, hafter⟩
  · exact hanswer containers _ _ hafter

theorem Alike.carryOut (h : s.Alike s') (plan : Api.Plan) : SameServed (s.carryOut plan) (s'.carryOut plan) := by
  have hwhole := h
  obtain ⟨hstore, hengine, hpool, hwatch⟩ := h
  cases plan with
  | reply response => exact ⟨rfl, hwhole⟩
  | queue kind config =>
    cases kind with
    | create => exact hwhole.queueNew config.name (.create config [] []) s.apiAttempts
    | delete => exact hwhole.queueNew config.name (.delete config []) s.apiAttempts
  | tearDownOrphans name =>
    refine hwhole.listForRequest name fun containers t t' ht => ?_
    dsimp only
    split
    · exact ⟨rfl, ht⟩
    · have hattempts : t.apiAttempts = t'.apiAttempts := by
        cases ht
        rfl
      rw [← hattempts]
      exact ht.queueNew name (.delete (Deployment.new name "") []) t.apiAttempts
  | containers name => exact hwhole.listForRequest name fun containers t t' ht => ⟨rfl, ht⟩
  | follow name => exact ⟨rfl, .of hstore hengine hpool hwatch⟩
  | panic => exact ⟨rfl, hwhole⟩

theorem Alike.withStore (h : s.Alike s') {store store' : Store} (hstore : store.Alike store') :
    Alike { s with store := store } { s' with store := store' } := by
  obtain ⟨-, hengine, hpool, hwatch⟩ := h
  exact .of hstore hengine hpool hwatch

/-- Requests that take the same are answered the same. -/
theorem Alike.request_of_plan (h : s.Alike s') {r r' : Http.Request} (hmethod : r.method = r'.method)
    (hplan : (Api.plan s.stamp.1 r s.store).1 = (Api.plan s.stamp.1 r' s'.store).1)
    (hafter : (Api.plan s.stamp.1 r s.store).2.Alike (Api.plan s.stamp.1 r' s'.store).2) :
    SameServed (s.request r) (s'.request r') := by
  have hcarried := (h.stamp.2.withStore hafter).carryOut (Api.plan s.stamp.1 r' s'.store).1
  have hstore (u : Daemon) : u.stamp.2.store = u.store := rfl
  unfold Daemon.request
  dsimp only
  rw [← h.stamp.1, ← hmethod, hstore, hstore, hplan]
  generalize Daemon.carryOut _ _ = x at hcarried ⊢
  generalize Daemon.carryOut _ _ = x' at hcarried ⊢
  obtain ⟨served, t⟩ := x
  obtain ⟨served', t'⟩ := x'
  obtain ⟨hserved, hdone⟩ := hcarried
  obtain rfl : served = served' := hserved
  cases served <;> exact ⟨rfl, hdone⟩

theorem Alike.store (h : s.Alike s') : s.store.Alike s'.store := by
  cases h
  assumption

/-- The same request is answered the same. -/
theorem Alike.request (h : s.Alike s') (r : Http.Request) : SameServed (s.request r) (s'.request r) := by
  obtain ⟨hplan, hafter⟩ := Api.plan_alike h.store s.stamp.1 r
  exact h.request_of_plan rfl hplan hafter

/-! ## Courses -/

/-- What comes to a daemon from outside, or who acts in it. -/
inductive Input where
  | request (r : Http.Request)
  | act (actor : Actor)
  | pass (milliseconds : Nat)
  | withdraw (ticket : Ticket)
  | startWorkers
  | stopWorkers
  | closeQueue
  | startWatch
  | stopWatch
  /-- A client sends to its socket, or leaves it. -/
  | client (i : Nat) (f : Socket → Socket)
  /-- Followers come, read what they were sent, or go. -/
  | followers (f : Hub → Hub)
  | arrange (fault : Engine.Fault)
  /-- Something becomes of containers by itself, whatever their environments are. -/
  | engine (f : Engine.Memory → Engine.Memory)
    (h : ∀ m m' : Engine.Memory, m.bare = m'.bare → (f m).bare = (f m').bare)

/-- What is served of an input, if it is a request, and the daemon after it. Who cannot act leaves the
daemon as it is. -/
def take (s : Daemon) : Input → Option Served × Daemon
  | .request r => let (served, t) := s.request r; (some served, t)
  | .act actor => (none, (s.step? actor).getD s)
  | .pass milliseconds => (none, { s with now := s.now + milliseconds })
  | .withdraw ticket => (none, s.withdraw ticket)
  | .startWorkers => (none, s.startWorkers)
  | .stopWorkers => (none, s.stopWorkers.2)
  | .closeQueue => (none, s.closeQueue)
  | .startWatch => (none, s.startWatch)
  | .stopWatch => (none, s.stopWatch)
  | .client i f => (none, s.updateSocket i f)
  | .followers f => (none, { s with hub := f s.hub })
  | .arrange fault => (none, s.arrange fault)
  | .engine f _ => (none, s.updateEngine f)

/-- What is served of the requests among inputs, and the daemon after all of them. -/
def course (s : Daemon) : List Input → List Served × Daemon
  | [] => ([], s)
  | input :: rest =>
    let (served, t) := s.take input
    let (answers, u) := t.course rest
    (served.toList ++ answers, u)

/-- The inputs are the same, or add secrets under the same key. -/
inductive Input.Alike : Input → Input → Prop
  | same (input : Input) : Alike input input
  | secret {r : Http.Request} {body name : String} {given given' : Api.SecretRequest}
    (haction : Api.Action.ofRequest r = .ok (.addSecret name))
    (hread : r.readBody Api.SecretRequest.ofJson = .ok given)
    (hread' : Http.Request.readBody { r with body := body } Api.SecretRequest.ofJson = .ok given')
    (hkey : given.key = given'.key) : Alike (.request r) (.request { r with body := body })

theorem Alike.startWorkers (h : s.Alike s') : s.startWorkers.Alike s'.startWorkers := by
  obtain ⟨hstore, hengine, hpool, hwatch⟩ := h
  refine .of hstore hengine (rel_map hpool ?_) hwatch
  rintro p _ ⟨hworkers⟩
  unfold Pool.start
  dsimp only
  split
  · exact .of hworkers
  · refine .of (List.forall₂_same.2 fun w hw => ?_)
    rw [List.eq_of_mem_replicate hw]
    exact .idle

theorem Alike.stopWorkers (h : s.Alike s') : s.stopWorkers.2.Alike s'.stopWorkers.2 := by
  have hwhole := h
  obtain ⟨hstore, hengine, hpool, hwatch⟩ := h
  unfold Daemon.stopWorkers
  dsimp only
  rcases hs : s.pool with _ | p
  · rw [hs] at hpool
    cases hpool
    exact hwhole
  · rw [hs] at hpool
    obtain ⟨hp⟩ := hpool
    have hended := hp.haveEnded
    obtain ⟨hworkers⟩ := hp
    refine .of hstore hengine (.some ?_) hwatch
    unfold Pool.stop
    rw [← hended]
    exact .of hworkers

theorem Alike.stopWatch (h : s.Alike s') : s.stopWatch.Alike s'.stopWatch := by
  obtain ⟨hstore, hengine, hpool, hwatch⟩ := h
  refine .of hstore hengine hpool (rel_map hwatch ?_)
  rintro w _ ⟨hstate⟩
  exact .of hstate

/-- Whoever cannot act in a daemon cannot act in one like it. -/
theorem Alike.act (h : s.Alike s') (actor : Actor) :
    ((s.step? actor).getD s).Alike ((s'.step? actor).getD s') := by
  have hstep := h.step? actor
  generalize s.step? actor = after, s'.step? actor = after' at hstep
  cases hstep with
  | none => exact h
  | some hafter => exact hafter

theorem Alike.take (h : s.Alike s') {input input' : Input} (hinput : input.Alike input') :
    (s.take input).1 = (s'.take input').1 ∧ (s.take input).2.Alike (s'.take input').2 := by
  cases hinput with
  | @secret r body name given given' haction hread hread' hkey =>
    have haction' : Api.Action.ofRequest { r with body := body } = .ok (.addSecret name) := haction
    obtain ⟨hplan, hafter⟩ := Api.plan_addSecret_alike h.store s.stamp.1 haction haction' hread hread' hkey
    have hmethod : r.method = Http.Request.method { r with body := body } := rfl
    obtain ⟨hserved, hdone⟩ := h.request_of_plan hmethod hplan hafter
    exact ⟨congrArg some hserved, hdone⟩
  | same =>
    have hwhole := h
    obtain ⟨hstore, hengine, hpool, hwatch⟩ := h
    cases input with
    | request r =>
      obtain ⟨hserved, hafter⟩ := hwhole.request r
      exact ⟨congrArg some hserved, hafter⟩
    | act actor => exact ⟨rfl, hwhole.act actor⟩
    | pass milliseconds => exact ⟨rfl, .of hstore hengine hpool hwatch⟩
    | withdraw ticket => exact ⟨rfl, .of hstore hengine hpool hwatch⟩
    | startWorkers => exact ⟨rfl, hwhole.startWorkers⟩
    | stopWorkers => exact ⟨rfl, hwhole.stopWorkers⟩
    | closeQueue => exact ⟨rfl, .of hstore hengine .none hwatch⟩
    | startWatch => exact ⟨rfl, .of hstore hengine hpool (.some (.of .starting))⟩
    | stopWatch => exact ⟨rfl, hwhole.stopWatch⟩
    | client i f => exact ⟨rfl, .of hstore hengine hpool hwatch⟩
    | followers f => exact ⟨rfl, .of hstore hengine hpool hwatch⟩
    | arrange fault =>
      obtain ⟨hmemory, hfaults⟩ := bare_eq_iff.1 hengine
      refine ⟨rfl, .of hstore (bare_eq_iff.2 ⟨hmemory, ?_⟩) hpool hwatch⟩
      exact congrArg (· ++ [fault]) hfaults
    | engine f hf =>
      obtain ⟨hmemory, hfaults⟩ := bare_eq_iff.1 hengine
      exact ⟨rfl, .of hstore (bare_eq_iff.2 ⟨hf _ _ hmemory, hfaults⟩) hpool hwatch⟩

theorem Alike.course (h : s.Alike s') {inputs inputs' : List Input}
    (hinputs : List.Forall₂ Input.Alike inputs inputs') :
    (s.course inputs).1 = (s'.course inputs').1 ∧ (s.course inputs).2.Alike (s'.course inputs').2 := by
  induction hinputs generalizing s s' with
  | nil => exact ⟨rfl, h⟩
  | cons hinput _ ih =>
    obtain ⟨hserved, hafter⟩ := h.take hinput
    obtain ⟨hanswers, hlast⟩ := ih hafter
    refine ⟨?_, hlast⟩
    simp only [Daemon.course, hserved, hanswers]

/-! ## States that are reached -/

/-- The states a daemon comes to that was at rest once. -/
inductive Reached : Daemon → Prop
  | rest {s : Daemon} (h : s.AtRest) : Reached s
  | take {s : Daemon} (hs : Reached s) (input : Input) : Reached (s.take input).2

theorem Reached.alike (h : s.Reached) : s.Alike s := by
  induction h with
  | rest h => exact h.alike
  | take _ input ih => exact (ih.take (.same input)).2

/-- Whatever comes to a daemon and whoever acts in it in whatever order: if secrets are given other values,
every request is answered the same, with the same status and the same body, the events on their way to
followers and those that clients were sent are the same, and so are the records of finished jobs. -/
theorem unseen_values (hs : s.Reached) {inputs inputs' : List Input}
    (hinputs : List.Forall₂ Input.Alike inputs inputs') :
    (s.course inputs).1 = (s.course inputs').1 ∧
    (∀ served, (s.course inputs).2.standing served = (s.course inputs').2.standing served) ∧
    (s.course inputs).2.hub = (s.course inputs').2.hub ∧
    (s.course inputs).2.sockets = (s.course inputs').2.sockets ∧
    (s.course inputs).2.store.records activityCollection
      = (s.course inputs').2.store.records activityCollection := by
  obtain ⟨hanswers, hafter⟩ := hs.alike.course hinputs
  generalize (s.course inputs).2 = t, (s.course inputs').2 = t' at hafter
  obtain ⟨hstore, hengine, hpool, hwatch⟩ := hafter
  exact ⟨hanswers, fun _ => rfl, rfl, rfl, hstore.activity⟩

/-- A request that adds a secret. -/
def addToken (value : String) : Http.Request where
  method := "POST"
  target := ⟨"/api/v1/deployments/api/secrets".toList, []⟩
  contentType := some "application/json"
  body := (Json.record [("key", Json.text "token"), ("value", Json.text value)]).render
  upgrades := false

/-- A request for all secrets. -/
def listTokens : Http.Request where
  method := "GET"
  target := ⟨"/api/v1/deployments/api/secrets".toList, []⟩
  contentType := none
  body := ""
  upgrades := false

/-- Which of two values a secret was given cannot be told from how it is added and listed. -/
theorem unseen_values_addToken :
    Reached { pool := some (Pool.new 1).start } ∧
      Input.Alike (.request (addToken "first")) (.request (addToken "second")) ∧
      (({ pool := some (Pool.new 1).start } : Daemon).course
          [.request (addToken "first"), .request listTokens]).1
        = (({ pool := some (Pool.new 1).start } : Daemon).course
          [.request (addToken "second"), .request listTokens]).1 := by
  have hs : Reached { pool := some (Pool.new 1).start } := .rest ⟨by decide, by simp⟩
  have haction (value : String) : Api.Action.ofRequest (addToken value) = .ok (.addSecret "api") := by
    have hspelled : Api.Action.spelled (addToken value) = .ok (.addSecret "api") := by rfl
    have hname : Api.decodedName "api" = .ok "api" := Api.decodedName_plain (by decide)
    rw [Api.Action.ofRequest, hspelled]
    change Api.Action.addSecret <$> Api.decodedName "api" = _
    rw [hname]
    rfl
  have hread (value : String) (hsize : (addToken value).body.utf8ByteSize ≤ Http.Request.maxBody) :
      (addToken value).readBody Api.SecretRequest.ofJson = .ok ⟨"token", value⟩ := by
    have hjson : (addToken value).hasJson = true := by rfl
    unfold Http.Request.readBody
    rw [hjson, if_neg (by decide), if_neg (Nat.not_lt.2 hsize), addToken, Json.decode,
      Json.read_render (by apply Json.printable_record; simp), Api.SecretRequest.ofJson_record]
    rfl
  have hadded : Input.Alike (.request (addToken "first")) (.request (addToken "second")) :=
    .secret (haction "first") (hread "first" (by decide)) (hread "second" (by decide)) rfl
  exact ⟨hs, hadded, (unseen_values hs (.cons hadded (.cons (.same _) .nil))).1⟩

end Daemon

end Orchestrator
