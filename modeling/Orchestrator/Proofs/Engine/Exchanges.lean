import Orchestrator.Engine.Remote.Client

/-!
# Talking to an engine

A client asks for one thing after another, and what an engine answers decides whether it goes on: an answer
may be a success, it may say that something does not exist, or it may be a refusal. `Midway` says how far a
list of talks has come that are answered in order, and `Broken` that it has ended at a refusal. Main
statement: `run_list`, a listing asks after each identifier that it is given, in turn, up to the first
refusal, and passes over those that do not exist.
-/
namespace Orchestrator.Engine.Remote

/-- Is a response an error, other than that something does not exist? -/
def HttpResponse.IsRefusal (r : HttpResponse) : Prop := 400 ≤ r.status ∧ r.status ≠ 404

instance (r : HttpResponse) : Decidable r.IsRefusal := inferInstanceAs (Decidable (_ ∧ _))

/-- What is asked in a step of a workflow, and what is answered. -/
structure Talk where
  step : String
  request : HttpRequest
  response : HttpResponse

/-- Is the talk one after which no other follows? -/
def Talk.Breaks (x : Talk) : Prop := x.response.IsRefusal

instance (x : Talk) : Decidable x.Breaks := inferInstanceAs (Decidable x.response.IsRefusal)

variable {c c₀ : Connection} {rest more : List HttpResponse} {said left talks : List Talk} {x : Talk}
  {r : HttpResponse}

/-- The talks up to the first refusal. -/
def held : List Talk → List Talk
  | [] => []
  | x :: left => if x.Breaks then [x] else x :: held left

theorem held_of_broken (h : ∀ x ∈ said, ¬ x.Breaks) (hx : x.Breaks) :
    held (said ++ x :: left) = said ++ [x] := by
  induction said with
  | nil => exact if_pos hx
  | cons y said ih =>
    rw [List.cons_append, held, if_neg (h y List.mem_cons_self),
      ih fun z hz => h z (List.mem_cons_of_mem y hz)]
    rfl

/-- The connection after some talks, with the responses that are to come. -/
def Connection.after (c : Connection) (talks : List Talk) (responses : List HttpResponse) : Connection :=
  { c with responses := responses, requests := c.requests ++ talks.map Talk.request }

/-- Some of the talks were held and none was broken off; the others are answered up to the first refusal. -/
structure Midway (c₀ : Connection) (rest : List HttpResponse) (said left : List Talk) (c : Connection) :
    Prop where
  unbroken : ∀ x ∈ said, ¬ x.Breaks
  eq : c = c₀.after said ((held left).map Talk.response ++ rest)

/-- The talks were broken off at one of them. -/
def Broken (c₀ : Connection) (rest : List HttpResponse) (talks : List Talk) (x : Talk) (c : Connection) :
    Prop :=
  ∃ said left, talks = said ++ x :: left ∧ (∀ y ∈ said, ¬ y.Breaks) ∧ x.Breaks ∧
    c = c₀.after (said ++ [x]) rest

theorem Midway.start (h : c.responses = (held talks).map Talk.response ++ rest) :
    Midway c rest [] talks c := by
  refine ⟨nofun, ?_⟩
  rw [← h, Connection.after, List.map_nil, List.append_nil]

theorem Connection.after_after (said left : List Talk) (rest' : List HttpResponse) :
    (c.after said rest').after left rest = c.after (said ++ left) rest := by
  simp [Connection.after]

/-- The next talk is answered; if it is no refusal the others are still to come, and otherwise none is. -/
theorem Midway.next (h : Midway c₀ rest said (x :: left) c) :
    ∃ more, c.responses = x.response :: more ∧
      (¬ x.Breaks → Midway c₀ rest (said ++ [x]) left (c.after [x] more)) ∧
      (x.Breaks → Broken c₀ rest (said ++ x :: left) x (c.after [x] more)) := by
  obtain ⟨hsaid, rfl⟩ := h
  by_cases hx : x.Breaks
  · refine ⟨rest, by simp [held, hx, Connection.after], fun hnot => absurd hx hnot, fun _ => ?_⟩
    exact ⟨said, left, rfl, hsaid, hx, c₀.after_after said [x] _⟩
  · refine ⟨(held left).map Talk.response ++ rest, by simp [held, hx, Connection.after],
      fun _ => ⟨fun y hy => ?_, c₀.after_after said [x] _⟩, fun hbreaks => absurd hbreaks hx⟩
    rcases List.mem_append.1 hy with hy | hy
    · exact hsaid y hy
    · rwa [List.mem_singleton.1 hy]

/-! ## One request -/

/-- The request that asks for a path; a query given here takes the place of one in the path. -/
def requestTo (method path : String) (query : Option (List (String × String))) (body : Option Json) :
    HttpRequest :=
  ⟨method, (Address.ofPath (version ++ path)).path, query.getD (Address.ofPath (version ++ path)).query, body⟩

/-- What a response says: its body, or an error. -/
def answerOf (r : HttpResponse) : Except EngineError String :=
  if r.status < 400 then .ok r.body else .error (refusal r)

theorem run_exchange {method path : String} {query : Option (List (String × String))} {body : Option Json}
    (h : c.responses = x.response :: more) (hx : x.request = requestTo method path query body) :
    (exchange method path query body).run c = (answerOf x.response, c.after [x] more) := by
  obtain ⟨responses, otherwise, requests⟩ := c
  obtain rfl : responses = x.response :: more := h
  unfold answerOf Connection.after
  rw [List.map_singleton, hx]
  by_cases hsuccess : x.response.status < 400
  · rw [if_pos hsuccess]
    show (ite (x.response.status < 400) _ _ : Exchange String) _ = _
    rw [if_pos hsuccess]
    rfl
  · rw [if_neg hsuccess]
    show (ite (x.response.status < 400) _ _ : Exchange String) _ = _
    rw [if_neg hsuccess]
    rfl

theorem run_bind {α β : Type} (a : Exchange α) (f : α → Exchange β) (c : Connection) :
    (a >>= f).run c = match a.run c with
      | (.ok v, c') => (f v).run c'
      | (.error e, c') => (.error e, c') := by
  change ExceptT.bindCont f (a.run c).1 (a.run c).2 = _
  obtain ⟨r, c'⟩ := a.run c
  cases r <;> rfl

theorem run_tryCatch {α : Type} (a : Exchange α) (f : EngineError → Exchange α) (c : Connection) :
    (tryCatch a f).run c = match a.run c with
      | (.ok v, c') => (.ok v, c')
      | (.error e, c') => (f e).run c' := by
  change (ExceptT.tryCatch a f).run.run c = _
  unfold ExceptT.tryCatch
  rw [ExceptT.run_mk, StateT.run_bind]
  obtain ⟨⟨r, c'⟩, h⟩ : ∃ p, StateT.run a c = p := ⟨_, rfl⟩
  rw [h, show a.run c = (r, c') from h]
  cases r <;> rfl

theorem run_pure {α : Type} (a : α) (c : Connection) : (pure a : Exchange α).run c = (.ok a, c) := rfl

/-- The value a body is read as. -/
def readBody {α : Type} (read : Json → Json.Decoded α) (body : String) : Except EngineError α :=
  match Json.decode read body.toList with
  | .ok a => .ok a
  | .error _ => .error .unreadable

theorem run_readAnswer {α : Type} (read : Json → Json.Decoded α) (body : String) (c : Connection) :
    (readAnswer read body).run c = (readBody read body, c) := by
  unfold readAnswer readBody
  cases Json.decode read body.toList <;> rfl

/-! ## Answers -/

theorem answerOf_of_isRefusal (h : r.IsRefusal) : answerOf r = .error (refusal r) :=
  if_neg (Nat.not_lt.2 h.1)

/-- A refusal is an error of the engine, with its status. -/
theorem refusal_of_isRefusal (h : r.IsRefusal) : ∃ text, refusal r = .api text := by
  unfold refusal
  exact ⟨_, if_neg h.2⟩

theorem answerOf_of_notFound (h : r.status = 404) : ∃ text, answerOf r = .error (.notFound text) := by
  have hrefusal : ∃ text, refusal r = .notFound text := by
    unfold refusal
    exact ⟨_, if_pos h⟩
  obtain ⟨text, htext⟩ := hrefusal
  exact ⟨text, by rw [answerOf, if_neg (by omega), htext]⟩

theorem answerOf_of_success (h : r.status < 400) : answerOf r = .ok r.body := if_pos h

theorem notFound_of_not_isRefusal {e : EngineError} (h : answerOf r = .error e) (hr : ¬ r.IsRefusal) :
    r.status = 404 := by
  by_cases hsuccess : r.status < 400
  · rw [answerOf_of_success hsuccess] at h
    cases h
  · exact Decidable.byContradiction fun hne => hr ⟨Nat.not_lt.1 hsuccess, hne⟩

/-- A request whose answer is not read. -/
theorem run_order {method path : String} {query : Option (List (String × String))}
    (h : c.responses = x.response :: more) (hx : x.request = requestTo method path query none) :
    (do let _ ← exchange method path query none; return ()).run c =
      ((answerOf x.response).map fun _ => (), c.after [x] more) := by
  rw [run_bind, run_exchange h hx]
  cases answerOf x.response <;> rfl

/-! ## How an exchange ends -/

/-- In a step the talks were broken off, with an error. -/
def Refused (c₀ : Connection) (rest : List HttpResponse) (talks : List Talk) (step : String) (e : EngineError)
    (c : Connection) : Prop :=
  ∃ x, x.step = step ∧ e = refusal x.response ∧ Broken c₀ rest talks x c

/-- The next talks were held and gave a value, or the talks were broken off at one of them. -/
def Outcome (c₀ : Connection) (rest : List HttpResponse) (step : String) (said now left : List Talk)
    {α : Type} (value : α) (result : Except EngineError α × Connection) : Prop :=
  (result.1 = .ok value ∧ Midway c₀ rest (said ++ now) left result.2) ∨
    ∃ e, result.1 = .error e ∧ Refused c₀ rest (said ++ now ++ left) step e result.2

section

variable {α β : Type} {step : String}

/-- An exchange of one talk, which only a refusal breaks off. -/
theorem Midway.outcome {value : α} {result : Except EngineError α × Connection}
    (h : Midway c₀ rest said (x :: left) c)
    (hresult : ∀ more, c.responses = x.response :: more →
      result = (if x.Breaks then .error (refusal x.response) else .ok value, c.after [x] more)) :
    Outcome c₀ rest x.step said [x] left value result := by
  obtain ⟨more, hresponses, hgoes, hbreaks⟩ := h.next
  rw [hresult more hresponses]
  by_cases hx : x.Breaks
  · refine .inr ⟨refusal x.response, if_pos hx, x, rfl, rfl, ?_⟩
    rw [List.append_assoc]
    exact hbreaks hx
  · exact .inl ⟨if_neg hx, hgoes hx⟩

theorem Outcome.bind (now later : List Talk) (value : α) {a : Exchange α} {f : α → Exchange β} {v : β}
    (h : Outcome c₀ rest step said now (later ++ left) value (a.run c))
    (hf : ∀ c', Midway c₀ rest (said ++ now) (later ++ left) c' →
      Outcome c₀ rest step (said ++ now) later left v ((f value).run c')) :
    Outcome c₀ rest step said (now ++ later) left v ((a >>= f).run c) := by
  rw [run_bind]
  unfold Outcome at h hf ⊢
  simp only [List.append_assoc] at h hf ⊢
  generalize a.run c = r at h ⊢
  obtain ⟨result, c'⟩ := r
  rcases h with ⟨rfl, hmidway⟩ | ⟨e, rfl, hrefused⟩
  · exact hf c' hmidway
  · exact .inr ⟨e, rfl, hrefused⟩

end

/-! ## Looking at containers -/

/-- A container on a listing, with what is answered to whom asks after it, stops it or removes it. -/
structure Sighting where
  id : String
  inspection : HttpResponse
  stopping : HttpResponse
  removal : HttpResponse

namespace Sighting

/-- The container that is reported, if there is one. -/
def container? (s : Sighting) : Option Container :=
  ((answerOf s.inspection).bind (readBody asContainer)).toOption

/-- An engine that answers with success gives a container, and it is the one that was asked for. -/
def IsAnswered (s : Sighting) : Prop :=
  s.inspection.status < 400 →
    ∃ found, Json.decode asContainer s.inspection.body.toList = .ok found ∧ found.id = s.id

/-- The talk in which the container is asked after. -/
def inspect (step : String) (s : Sighting) : Talk :=
  ⟨step, requestTo "GET" ("/containers/" ++ s.id ++ "/json") none none, s.inspection⟩

/-- The talk in which the container is stopped, which may take it a minute. -/
def stop (step : String) (s : Sighting) : Talk :=
  ⟨step, requestTo "POST" ("/containers/" ++ s.id ++ "/stop") (some [("t", "60")]) none, s.stopping⟩

/-- The talk in which the container is removed, with its volumes and whatever its state is. -/
def remove (step : String) (s : Sighting) : Talk :=
  ⟨step, requestTo "DELETE" ("/containers/" ++ s.id)
    (some [("v", "true"), ("force", "true"), ("link", "false")]) none, s.removal⟩

variable {s : Sighting}

theorem IsAnswered.container?_eq (h : s.IsAnswered) (hsuccess : s.inspection.status < 400) :
    ∃ found, (answerOf s.inspection).bind (readBody asContainer) = .ok found ∧ found.id = s.id := by
  obtain ⟨found, hfound, hid⟩ := h hsuccess
  refine ⟨found, ?_, hid⟩
  rw [answerOf_of_success hsuccess]
  unfold Except.bind readBody
  dsimp only
  rw [hfound]

theorem IsAnswered.isSome_iff (h : s.IsAnswered) :
    s.container?.isSome = true ↔ s.inspection.status < 400 := by
  refine ⟨fun hsome => Decidable.byContradiction fun hnot => ?_, fun hsuccess => ?_⟩
  · rw [container?, answerOf, if_neg hnot] at hsome
    cases hsome
  · obtain ⟨found, hfound, -⟩ := h.container?_eq hsuccess
    rw [container?, hfound]
    rfl

theorem IsAnswered.id_eq (h : s.IsAnswered) {found : Container} (hfound : s.container? = some found) :
    found.id = s.id := by
  obtain ⟨found', hfound', hid⟩ := h.container?_eq (h.isSome_iff.1 (Option.isSome_iff_exists.2 ⟨_, hfound⟩))
  rw [container?, hfound'] at hfound
  exact Option.some.inj hfound ▸ hid

end Sighting

theorem run_inspect {id : String} (h : c.responses = x.response :: more)
    (hx : x.request = requestTo "GET" ("/containers/" ++ id ++ "/json") none none) :
    (inspect id).run c = ((answerOf x.response).bind (readBody asContainer), c.after [x] more) := by
  unfold inspect
  rw [run_bind, run_exchange h hx]
  cases answerOf x.response with
  | ok body => exact run_readAnswer ..
  | error e => rfl

/-- The container with an identifier, or nothing if it does not exist. -/
def look (id : String) : Exchange (Option Container) :=
  tryCatch (some <$> inspect id) fun e => if e.isNotFound then return none else throw e

theorem inspectAll_cons (id : String) (ids : List String) :
    inspectAll (id :: ids) = do
      let found ← look id
      let others ← inspectAll ids
      return found.toList ++ others := rfl

theorem run_look {id : String} (h : c.responses = x.response :: more)
    (hx : x.request = requestTo "GET" ("/containers/" ++ id ++ "/json") none none) :
    (look id).run c = (match (answerOf x.response).bind (readBody asContainer) with
      | .ok found => .ok (some found)
      | .error e => if e.isNotFound then .ok none else .error e, c.after [x] more) := by
  unfold look
  rw [run_tryCatch, map_eq_pure_bind, run_bind, run_inspect h hx]
  cases (answerOf x.response).bind (readBody asContainer) with
  | ok found => rfl
  | error e =>
    show (ite (e.isNotFound = true) _ _ : Exchange (Option Container)) _ =
      (ite (e.isNotFound = true) _ _, c.after [x] more)
    split <;> rfl

section

variable {step : String}

/-- A container is asked after. -/
theorem look_outcome {s : Sighting} (hs : s.IsAnswered)
    (h : Midway c₀ rest said (s.inspect step :: left) c) :
    Outcome c₀ rest step said [s.inspect step] left s.container? ((look s.id).run c) := by
  refine h.outcome fun more hresponses => ?_
  rw [run_look hresponses rfl]
  congr 1
  change _ = (if s.inspection.IsRefusal then Except.error (refusal s.inspection) else _)
  rw [show (s.inspect step).response = s.inspection from rfl]
  unfold Sighting.container?
  by_cases hrefusal : s.inspection.IsRefusal
  · obtain ⟨text, htext⟩ := refusal_of_isRefusal hrefusal
    rw [if_pos hrefusal, answerOf_of_isRefusal hrefusal, htext]
    rfl
  · rw [if_neg hrefusal]
    by_cases hsuccess : s.inspection.status < 400
    · obtain ⟨found, hfound, -⟩ := hs.container?_eq hsuccess
      rw [hfound]
      rfl
    · have hgone : s.inspection.status = 404 := Decidable.byContradiction fun hne =>
        hrefusal ⟨Nat.not_lt.1 hsuccess, hne⟩
      obtain ⟨text, htext⟩ := answerOf_of_notFound hgone
      rw [htext]
      rfl

/-- Containers are asked after in turn, up to a refusal; those that do not exist are passed over. -/
theorem inspectAll_outcome {sightings : List Sighting} (hs : ∀ s ∈ sightings, s.IsAnswered)
    (h : Midway c₀ rest said (sightings.map (Sighting.inspect step) ++ left) c) :
    Outcome c₀ rest step said (sightings.map (Sighting.inspect step)) left
      (sightings.filterMap Sighting.container?) ((inspectAll (sightings.map Sighting.id)).run c) := by
  induction sightings generalizing said c with
  | nil =>
    rw [List.map_nil, List.nil_append] at h
    exact .inl ⟨rfl, (List.append_nil said).symm ▸ h⟩
  | cons s sightings ih =>
    rw [List.map_cons, List.map_cons, inspectAll_cons]
    refine Outcome.bind [s.inspect step] _ _ (look_outcome (hs s List.mem_cons_self) h) fun c₁ h₁ => ?_
    rw [← List.append_nil (sightings.map (Sighting.inspect step))]
    refine Outcome.bind _ [] _ (ih (fun s' hs' => hs s' (List.mem_cons_of_mem s hs')) h₁)
      fun c₂ h₂ => .inl ⟨?_, by rwa [List.append_nil]⟩
    cases h : s.container? <;> simp [run_pure, h]

/-! ## Orders -/

theorem serve_stop {s : Sighting} (h : c.responses = s.stopping :: more) :
    serve c (.stop s.id 60000) = ((answerOf s.stopping).map fun _ => (), c.after [s.stop step] more) :=
  run_order (x := s.stop step) h rfl

theorem serve_remove {s : Sighting} (h : c.responses = s.removal :: more) :
    serve c (.remove s.id true) = ((answerOf s.removal).map fun _ => (), c.after [s.remove step] more) :=
  run_order (x := s.remove step) h rfl

/-! ## Listings -/

/-- The talk in which the containers with a label are asked for. -/
def listing (step label value : String) (response : HttpResponse) : Talk :=
  ⟨step, requestTo "GET" "/containers/json"
    (some [("all", flag true), ("size", flag false),
      ("filters", (Json.record [("label", Json.texts [label ++ "=" ++ value])]).render)]) none, response⟩

/-- Containers are listed and asked after in turn. -/
theorem list_outcome {label value : String} {response : HttpResponse} {sightings : List Sighting}
    (hsuccess : response.status < 400)
    (hlisted : Json.decode asSummaries response.body.toList = .ok (sightings.map Sighting.id))
    (hs : ∀ s ∈ sightings, s.IsAnswered)
    (h : Midway c₀ rest said
      (listing step label value response :: sightings.map (Sighting.inspect step) ++ left) c) :
    Outcome c₀ rest step said (listing step label value response :: sightings.map (Sighting.inspect step))
      left (sightings.filterMap Sighting.container?) (serve c (.list label value)) := by
  change Outcome c₀ rest step said ([listing step label value response] ++ _) left _ ((list label value).run c)
  have hnot : ¬ (listing step label value response).Breaks := fun hbreaks =>
    absurd hsuccess (Nat.not_lt.2 hbreaks.1)
  unfold list
  refine Outcome.bind _ _ response.body (h.outcome fun more hresponses => ?_) fun c₁ h₁ => ?_
  · rw [run_exchange hresponses rfl, if_neg hnot]
    exact congrArg (·, _) (answerOf_of_success hsuccess)
  · refine Outcome.bind [] _ (sightings.map Sighting.id) (.inl ⟨?_, ?_⟩) fun c₂ h₂ => ?_
    · rw [run_readAnswer]
      unfold readBody
      rw [hlisted]
    · rwa [List.append_nil, run_readAnswer]
    · exact inspectAll_outcome hs (by rwa [List.append_nil] at h₂ ⊢)

end

end Orchestrator.Engine.Remote
