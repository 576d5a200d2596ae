import Orchestrator.Proofs.Event.Followers

/-!
# Fan-out is exact

Whatever the order in which calls, deliveries and readers go on (`Steps`), an event goes once to each
subscription of the moment it is raised, a subscription that fails takes no other with it, and whoever stays
subscribed has in the end taken every event that was raised since: `fan_out`.
-/
namespace Orchestrator.Traffic

variable {s t t' : Traffic} {d : String} {id n i k : Nat} {m m' : Emission} {r : Errand}

/-! ## What a step leaves as it is -/

theorem removed_step (h : Removed t.leaves d id) (hstep : Step t t') : Removed t'.leaves d id := by
  cases hstep with
  | leave d id => exact (removed_concat rfl).2 h
  | remove hl hstage hid => exact h.set hl rfl rfl fun _ => rfl
  | miss hl hstage hid =>
    refine h.set hl rfl rfl fun hs => ?_
    rw [hstage] at hs
    cases hs
  | close hl hstage => exact h.set hl rfl rfl fun _ => rfl
  | tell hl hstage => exact h.set hl rfl rfl fun _ => rfl
  | fail hr hstage hhub => exact (removed_concat rfl).2 h
  | join | register | emit | spawn | accept | panic | read | abandon => exact h

/-- What an event was raised for does not change. -/
theorem emission_step (hm : t.emissions[n]? = some m) (hstep : Step t t') :
    ∃ m', t'.emissions[n]? = some m' ∧ m'.deployment = m.deployment ∧ m'.event = m.event ∧
      m'.targets = m.targets := by
  cases hstep with
  | emit d e => exact ⟨m, getElem?_concat_of_some hm, rfl, rfl, rfl⟩
  | @spawn k x id hx hid =>
    by_cases hk : n = k
    · subst hk
      cases hm.symm.trans hx
      exact ⟨_, getElem?_set_self_of_some hm, rfl, rfl, rfl⟩
    · exact ⟨m, (List.getElem?_set_ne (Ne.symm hk)).trans hm, rfl, rfl, rfl⟩
  | join | register | leave | remove | miss | close | tell | accept | fail | panic | read | abandon =>
    exact ⟨m, hm, rfl, rfl, rfl⟩

/-- An event was there before, or is raised for the subscriptions of the moment. -/
theorem emission_of_step (hstep : Step t t') (hm : t'.emissions[n]? = some m') :
    (∃ m, t.emissions[n]? = some m ∧ m'.deployment = m.deployment ∧ m'.targets = m.targets) ∨
      (n = t.emissions.length ∧ m'.targets = t.hub.subscribers m'.deployment) := by
  cases hstep with
  | emit d e =>
    rcases getElem?_concat_eq_some hm with hm | ⟨hn, rfl⟩
    · exact .inl ⟨m', hm, rfl, rfl⟩
    · exact .inr ⟨hn, rfl⟩
  | @spawn k x id hx hid =>
    rcases getElem?_set_eq_some hm with ⟨rfl, rfl⟩ | ⟨-, hm⟩
    · exact .inl ⟨x, hx, rfl, rfl⟩
    · exact .inl ⟨m', hm, rfl, rfl⟩
  | join | register | leave | remove | miss | close | tell | accept | fail | panic | read | abandon =>
    exact .inl ⟨m', hm, rfl, rfl⟩

/-- The follower of a subscription does not change. -/
theorem sink_step (hid : id < t.hub.next) (hstep : Step t t') : t'.sink id = t.sink id := by
  cases hstep with
  | join d guest hguest =>
    cases guest with
    | again k => exact Function.update_of_ne (Nat.ne_of_lt hid) _ _
    | channel | counting | stranger => rfl
  | register | leave | remove | miss | close | tell | emit | spawn | accept | fail | panic | read
  | abandon => rfl

theorem find?_updateFollower (hub : Hub) (g : Follower → Follower) (j : Nat)
    (h : hub.followers.find? j = none) : (hub.updateFollower k g).followers.find? j = none := by
  unfold Hub.updateFollower
  cases hf : hub.followers.find? k with
  | none => exact h
  | some f => exact find?_insert_of_none hf h _

theorem Answers.find? {hub hub' : Hub} {e : Event} {answer : Except DeliveryError Unit} {j : Nat}
    (hhub : hub.Answers k e answer hub') (h : hub.followers.find? j = none) :
    hub'.followers.find? j = none := by
  cases hhub with
  | follower hf => exact find?_insert_of_none hf h _
  | stranger => exact h

/-- A follower that is not one of the hub's own stays so. -/
theorem stranger_step (hk : k < t.hub.next) (hnone : t.hub.followers.find? k = none)
    (hstep : Step t t') : t'.hub.followers.find? k = none := by
  cases hstep with
  | join d guest hguest =>
    cases guest with
    | channel | counting => exact (find?_insert_of_ne (Nat.ne_of_lt hk) _).trans hnone
    | stranger | again => exact hnone
  | close hl hstage => exact find?_updateFollower _ _ _ hnone
  | abandon sink => exact find?_updateFollower _ _ _ hnone
  | accept hr hstage hhub => exact Answers.find? hhub hnone
  | fail hr hstage hhub => exact Answers.find? hhub hnone
  | read hf n => exact find?_insert_of_none hf hnone _
  | register | leave | remove | miss | tell | emit | spawn | panic => exact hnone

/-! ## All that holds at any time -/

/-- The calls, deliveries and followers of a hub agree. -/
structure Sound (t : Traffic) : Prop where
  kept : t.Kept
  tidy : t.hub.IsTidy
  posted : t.Posted
  founded : t.Founded
  closing : Closing t.leaves t.closed
  housed : t.Housed
  panicked : ∀ r ∈ t.errands, r.stage = .panicked →
    t.hub.followers.find? (t.sink r.delivery.subscription) = none

theorem Sound.start : Sound {} where
  kept := Register.start
  tidy d h := by cases h
  posted := Posting.start
  founded := Causes.start
  closing := ⟨List.nodup_nil, fun id => by simp⟩
  housed := Housing.start
  panicked r hr := by cases hr

/-- Deliveries are made to subscriptions whose numbers were drawn. -/
theorem Sound.subscription_lt (h : t.Sound) (hr : r ∈ t.errands) :
    r.delivery.subscription < t.hub.next := h.kept.id_lt (h.founded.posted r hr)

/-- A delivery that has panicked had so before, or is one to a follower that is not the hub's. -/
theorem Sound.panicked_of_step (h : t.Sound) (hstep : Step t t') (hr : r ∈ t'.errands)
    (hstage : r.stage = .panicked) :
    r.delivery.subscription < t.hub.next ∧
      t.hub.followers.find? (t.sink r.delivery.subscription) = none := by
  cases hstep with
  | spawn hm hid =>
    rcases List.mem_append.1 hr with hr | hr
    · exact ⟨h.subscription_lt hr, h.panicked r hr hstage⟩
    · rw [List.mem_singleton.1 hr] at hstage
      cases hstage
  | accept hx hsending hhub | fail hx hsending hhub =>
    rcases List.mem_or_eq_of_mem_set hr with hr | rfl
    · exact ⟨h.subscription_lt hr, h.panicked r hr hstage⟩
    · cases hstage
  | panic hx hsending hsink =>
    rcases List.mem_or_eq_of_mem_set hr with hr | rfl
    · exact ⟨h.subscription_lt hr, h.panicked r hr hstage⟩
    · have hlt := h.subscription_lt (List.mem_of_getElem? hx)
      exact ⟨hlt, hsink⟩
  | join | register | leave | remove | miss | close | tell | emit | read | abandon =>
    exact ⟨h.subscription_lt hr, h.panicked r hr hstage⟩

theorem Sound.step (h : t.Sound) (hstep : Step t t') : t'.Sound where
  kept := h.kept.step hstep
  tidy := tidy_step h.tidy hstep
  posted := h.posted.step h.kept hstep
  founded := h.founded.step h.kept h.posted hstep
  closing := closing_step h.closing h.kept hstep
  housed := h.housed.step h.kept h.founded hstep
  panicked r hr hstage := by
    obtain ⟨hlt, hnone⟩ := h.panicked_of_step hstep hr hstage
    rw [sink_step hlt hstep]
    exact stranger_step (h.housed.sink_lt _ hlt) hnone hstep

theorem Sound.steps (h : t.Sound) (hsteps : Steps t t') : t'.Sound := by
  induction hsteps with
  | refl => exact h
  | tail _ hstep ih => exact ih.step hstep

/-! ## Events since a subscription -/

theorem registered_steps (h : Registered t.joins d id) (hsteps : Steps t t') :
    Registered t'.joins d id := by
  induction hsteps with
  | refl => exact h
  | tail _ hstep ih => exact registered_step ih hstep

theorem emission_steps (hm : t.emissions[n]? = some m) (hsteps : Steps t t') :
    ∃ m', t'.emissions[n]? = some m' ∧ m'.deployment = m.deployment ∧ m'.event = m.event ∧
      m'.targets = m.targets := by
  induction hsteps with
  | refl => exact ⟨m, hm, rfl, rfl, rfl⟩
  | tail _ hstep ih =>
    obtain ⟨x, hx, hd, he, htargets⟩ := ih
    obtain ⟨m', hm', hd', he', htargets'⟩ := emission_step hx hstep
    exact ⟨m', hm', hd'.trans hd, he'.trans he, htargets'.trans htargets⟩

/-- A subscription that was put on the map and still is on it has been on it. -/
theorem Sound.mem_of_step (h : t.Sound) (hregistered : Registered t.joins d id) (hstep : Step t t')
    (hid : id ∈ t'.hub.subscribers d) : id ∈ t.hub.subscribers d := by
  refine (h.kept.mem_iff d id).2 ⟨hregistered, fun hremoved => ?_⟩
  exact (((h.step hstep).kept.mem_iff d id).1 hid).2 (removed_step hremoved hstep)

/-- Every event raised since a subscription goes to it, as long as it is on the map. -/
theorem Sound.mem_targets (hs : s.Sound) (hsteps : Steps s t) (hid : id ∈ s.hub.subscribers d)
    (hstill : id ∈ t.hub.subscribers d) (hn : s.emissions.length ≤ n) (hm : t.emissions[n]? = some m)
    (hd : m.deployment = d) : id ∈ m.targets := by
  have hregistered := ((hs.kept.mem_iff d id).1 hid).1
  induction hsteps generalizing m with
  | refl =>
    rw [List.getElem?_eq_none hn] at hm
    cases hm
  | @tail u t hu hstep ih =>
    have hmem := (hs.steps hu).mem_of_step (registered_steps hregistered hu) hstep hstill
    rcases emission_of_step hstep hm with ⟨x, hx, hxd, htargets⟩ | ⟨-, htargets⟩
    · rw [htargets]
      exact ih hmem hx (hxd ▸ hd)
    · rw [htargets, hd]
      exact hmem

/-! ## Fan-out -/

/-- No event has a delivery left to start, and no delivery is under way: none still sends, and none that
failed is still to take its subscription off the map. -/
def IsQuiet (t : Traffic) : Prop :=
  (∀ m ∈ t.emissions, m.left = []) ∧ (∀ r ∈ t.errands, r.stage ≠ .sending) ∧
    ∀ l ∈ t.leaves, l.cause.isSome = true → l.stage ≠ .asked

/-- When a failed delivery has looked at the map, its subscription is off it. -/
theorem Sound.notMem_of_failed (h : t.Sound) (hquiet : t.IsQuiet) (hr : t.errands[i]? = some r)
    (hfailed : r.stage = .failed) :
    r.delivery.subscription ∉ t.hub.subscribers r.delivery.deployment := by
  obtain ⟨l, hl, hcause⟩ := h.founded.failed i r hr hfailed
  obtain ⟨x, hx, -, hd, hid⟩ := h.founded.cause l hl i hcause
  cases hx.symm.trans hr
  have hsome : l.cause.isSome = true := by rw [hcause]; rfl
  have hremoved : Removed t.leaves l.deployment l.id := by
    cases hstage : l.stage with
    | asked => exact absurd hstage (hquiet.2.2 l hl hsome)
    | removed | closing => exact ⟨l, hl, rfl, rfl, by rw [hstage]; rfl⟩
    | told found =>
      cases found with
      | true => exact ⟨l, hl, rfl, rfl, by rw [hstage]; rfl⟩
      | false => exact h.founded.gone l hl hsome hstage
  rw [hd, hid]
  exact fun hmem => ((h.kept.mem_iff _ _).1 hmem).2 hremoved

/-- A subscription of one of the hub's own followers that is still on the map when all is quiet has taken
each event it was to have. -/
theorem Sound.accepted_of_quiet (h : t.Sound) (hquiet : t.IsQuiet)
    (hid : id ∈ t.hub.subscribers d) (hknown : (t.hub.followers.find? (t.sink id)).isSome = true)
    (hm : t.emissions[n]? = some m) (hd : m.deployment = d) (htarget : id ∈ m.targets) :
    t.accepted.count (n, ⟨d, id, m.event⟩) = 1 := by
  subst hd
  refine List.count_eq_one_of_mem h.posted.accepted_nodup ((h.posted.accepted_iff _).2 ?_)
  -- the delivery was started, for nothing is left to start
  have hkey := (h.posted.perm n m hm).mem_iff.2 (mem_keys.2 ⟨id, htarget, rfl⟩)
  rw [hquiet.1 m (List.mem_of_getElem? hm)] at hkey
  rcases List.mem_append.1 hkey with hkey | hkey
  · obtain ⟨r, hr, hrkey⟩ := List.mem_map.1 (List.mem_filter.1 hkey).1
    have hdelivery : r.delivery = ⟨m.deployment, id, m.event⟩ := congrArg Prod.snd hrkey
    refine ⟨r, hr, hrkey, ?_⟩
    cases hstage : r.stage with
    | accepted => rfl
    | sending => exact absurd hstage (hquiet.2.1 r hr)
    | failed =>
      obtain ⟨i, hi⟩ := List.mem_iff_getElem?.1 hr
      have hnot := h.notMem_of_failed hquiet hi hstage
      rw [hdelivery] at hnot
      exact absurd hid hnot
    | panicked =>
      have hnone := h.panicked r hr hstage
      rw [hdelivery] at hnone
      rw [hnone] at hknown
      cases hknown
  · cases hkey

/-- What holds of the hub's fan-out at any time. -/
structure Exact (t : Traffic) : Prop where
  /-- No number is drawn twice. -/
  distinct : (t.joins.map Join.id).Nodup
  /-- No deployment stays on the map without subscriptions. -/
  tidy : t.hub.IsTidy
  /-- Of an event, one delivery is started for each subscription that was on the map of the deployment when
  it was raised, and none for any other; when all are started, their number is told. -/
  deliveries : ∀ s d e, Steps {} s → Steps (s.emit d e) t → (s.hub.subscribers d).Nodup ∧
    ∃ m, t.emissions[s.emissions.length]? = some m ∧
      (started t.errands s.emissions.length ++ m.keys s.emissions.length m.left).Perm
        ((s.hub.subscribers d).map fun id => (s.emissions.length, ⟨d, id, e⟩)) ∧
      ∀ count ∈ m.answer?, count = (s.hub.subscribers d).length
  /-- A subscription goes by a call of its own, and if a delivery makes that call, it is one to that
  subscription, and it has failed. -/
  removal : ∀ t', Step t t' → ∀ d, ∀ id ∈ t.hub.subscribers d, id ∉ t'.hub.subscribers d →
    ∃ (c : Nat) (l : Leave), t.leaves[c]? = some l ∧ l.deployment = d ∧ l.id = id ∧
      l.stage = .asked ∧ t'.leaves[c]? = some { l with stage := .removed } ∧
      ∀ i, l.cause = some i → ∃ r, t.errands[i]? = some r ∧ r.stage = .failed ∧
        r.delivery.deployment = d ∧ r.delivery.subscription = id
  /-- One call only removes a subscription, tells its follower to close and reports that it was there; the
  subscription was on the map and is not any more. -/
  single : ∀ (c : Nat) (l : Leave), t.leaves[c]? = some l → l.stage.hasRemoved = true →
    Registered t.joins l.deployment l.id ∧ l.id ∉ t.hub.subscribers l.deployment ∧
      ∀ (c' : Nat) (l' : Leave), t.leaves[c']? = some l' → l'.id = l.id →
        l'.stage.hasRemoved = true ∨ l'.stage.hasClosed = true ∨ l'.stage = .told true → c' = c
  /-- A follower is told to close once for each subscription at most, by the call that removed it. -/
  closed : t.closed.Nodup ∧ ∀ id ∈ t.closed, ∃ l ∈ t.leaves, l.id = id ∧
    l.stage.hasRemoved = true ∧ l.stage.hasClosed = true
  /-- When all is quiet, a subscription of one of the hub's own followers that is still on the map has
  taken, once, every event that was raised since it came. -/
  acceptance : ∀ s d, Steps {} s → Steps s t → ∀ id ∈ s.hub.subscribers d, t.IsQuiet →
    id ∈ t.hub.subscribers d → (t.hub.followers.find? (t.sink id)).isSome = true →
    ∀ (n : Nat) (m : Emission), s.emissions.length ≤ n → t.emissions[n]? = some m →
      m.deployment = d → t.accepted.count (n, ⟨d, id, m.event⟩) = 1
  /-- What such a follower has taken is what its reader got out of it and what is still in it. -/
  held : ∀ k f, t.hub.followers.find? k = some f → HasReader f →
    takenFrom t.taken k ++ f.events = acceptedBy t.sink t.accepted k

theorem Sound.distinct (h : t.Sound) : (t.joins.map Join.id).Nodup := by
  rw [h.kept.drawn]
  exact List.nodup_range

theorem Sound.deliveries (hs : s.Sound) {e : Event} (hsteps : Steps (s.emit d e) t) :
    ∃ m, t.emissions[s.emissions.length]? = some m ∧
      (started t.errands s.emissions.length ++ m.keys s.emissions.length m.left).Perm
        ((s.hub.subscribers d).map fun id => (s.emissions.length, ⟨d, id, e⟩)) ∧
      ∀ count ∈ m.answer?, count = (s.hub.subscribers d).length := by
  obtain ⟨m, hm, hd, he, htargets⟩ := emission_steps List.getElem?_concat_length hsteps
  refine ⟨m, hm, ?_, fun count hcount => ?_⟩
  · have hkeys : m.keys s.emissions.length m.targets =
        (s.hub.subscribers d).map fun id => (s.emissions.length, ⟨d, id, e⟩) := by
      rw [Emission.keys, hd, he, htargets]
    rw [← hkeys]
    exact ((hs.step (.emit d e)).steps hsteps).posted.perm _ m hm
  · rw [Emission.answer?, htargets] at hcount
    split at hcount
    · exact (Option.some.inj hcount).symm
    · cases hcount

/-- A step takes at most its own subscription off the map. -/
theorem Sound.removal (h : t.Sound) (hstep : Step t t') (hid : id ∈ t.hub.subscribers d)
    (hgone : id ∉ t'.hub.subscribers d) :
    ∃ (c : Nat) (l : Leave), t.leaves[c]? = some l ∧ l.deployment = d ∧ l.id = id ∧
      l.stage = .asked ∧ t'.leaves[c]? = some { l with stage := .removed } ∧
      ∀ i, l.cause = some i → ∃ r, t.errands[i]? = some r ∧ r.stage = .failed ∧
        r.delivery.deployment = d ∧ r.delivery.subscription = id := by
  cases hstep with
  | @remove c l hl hstage hmem =>
    have hsubscribers : ¬ id ∈ if d = l.deployment then (t.hub.subscribers l.deployment).erase l.id
        else t.hub.subscribers d := by
      rwa [← Hub.subscribers_setSubscribers]
    by_cases hd : d = l.deployment
    · subst hd
      rw [if_pos rfl, (h.kept.nodup _).mem_erase_iff, not_and'] at hsubscribers
      obtain rfl := Classical.not_not.1 (hsubscribers hid)
      refine ⟨c, l, hl, rfl, rfl, hstage, getElem?_set_self_of_some hl, fun i hi => ?_⟩
      exact h.founded.cause l (List.mem_of_getElem? hl) i hi
    · rw [if_neg hd] at hsubscribers
      exact absurd hid hsubscribers
  | @register c j hj hnew =>
    refine absurd ?_ hgone
    show id ∈ (t.hub.setSubscribers _ _).subscribers d
    rw [Hub.subscribers_setSubscribers]
    split
    · rename_i hd
      exact List.mem_append_left _ (hd ▸ hid)
    · exact hid
  | close hl hstage =>
    exact absurd ((t.hub.sameMap_updateFollower _ _).subscribers_eq ▸ hid) hgone
  | abandon sink =>
    exact absurd ((t.hub.sameMap_updateFollower _ _).subscribers_eq ▸ hid) hgone
  | accept hr hstage hhub => exact absurd (hhub.sameMap.subscribers_eq ▸ hid) hgone
  | fail hr hstage hhub => exact absurd (hhub.sameMap.subscribers_eq ▸ hid) hgone
  | join | leave | miss | tell | emit | spawn | panic | read => exact absurd hid hgone

/-- The hub's fan-out is exact, whatever the order in which its calls, deliveries and readers go on. -/
theorem fan_out (h : Steps {} t) : t.Exact := by
  have hsound := Sound.start.steps h
  refine ⟨hsound.distinct, hsound.tidy, fun s d e hs hsteps => ?_, fun t' hstep d id hid hgone =>
    hsound.removal hstep hid hgone, fun c l hl hstage => ?_, ⟨hsound.closing.nodup, fun id hid => ?_⟩,
    fun s d hs hsteps id hid hquiet hstill hknown n m hn hm hd => ?_, hsound.housed.held⟩
  · have hs := Sound.start.steps hs
    exact ⟨hs.kept.nodup d, hs.deliveries hsteps⟩
  · have hremoved : Removed t.leaves l.deployment l.id :=
      ⟨l, List.mem_of_getElem? hl, rfl, rfl, hstage⟩
    refine ⟨hsound.kept.registered _ _ hremoved,
      fun hid => ((hsound.kept.mem_iff _ _).1 hid).2 hremoved, fun c' l' hl' hid hs => ?_⟩
    have hs : l'.stage.hasRemoved = true := by
      rcases hs with hs | hs | hs
      · exact hs
      · exact Leave.Stage.hasRemoved_of_hasClosed hs
      · rw [hs]
        rfl
    exact hsound.kept.once c' c l' l hl' hl hs hstage hid
  · obtain ⟨l, hl, hlid, hs⟩ := (hsound.closing.mem_iff id).1 hid
    exact ⟨l, hl, hlid, Leave.Stage.hasRemoved_of_hasClosed hs, hs⟩
  · exact hsound.accepted_of_quiet hquiet hstill hknown hm hd
      ((Sound.start.steps hs).mem_targets hsteps hid hstill hn hm hd)


/-- Two followers, the first with room for one event. Two events are raised, and the first follower is
unsubscribed while the delivery of the second to it fails. -/
def racing : List Move := [
  .join "api" (.channel 1), .register 0, .join "api" (.channel 8), .register 1,
  .emit "api" ⟨⟨0⟩, .step, "pull-image"⟩, .emit "api" ⟨⟨0⟩, .step, "create-container"⟩,
  .spawn 1 1, .spawn 0 0, .spawn 1 0, .spawn 0 1, .send 0, .send 1, .leave "api" 0, .send 2, .send 3,
  .proceed 0, .proceed 1, .proceed 0, .proceed 0]

/-- Of the two calls that remove the first follower, one finds it; the second follower has both events. -/
theorem fan_out_racing : ∃ t, Steps {} t ∧ t.Exact ∧ t.hub.subscribers "api" = [1] ∧ t.closed = [0] ∧
    t.leaves.map Leave.stage = [.told true, .told false] ∧
    (acceptedBy t.sink t.accepted 1).map Event.message = ["create-container", "pull-image"] := by
  have hrun : (racing.foldlM step? {}).map (fun t => (t.hub.subscribers "api", t.closed,
      t.leaves.map Leave.stage, (acceptedBy t.sink t.accepted 1).map Event.message)) =
      some ([1], [0], [.told true, .told false], ["create-container", "pull-image"]) := by decide
  obtain ⟨t, ht, hseen⟩ := Option.map_eq_some_iff.1 hrun
  simp only [Prod.mk.injEq] at hseen
  obtain ⟨hsubscribers, hclosed, hleaves, haccepted⟩ := hseen
  have hsteps := steps_of_foldlM ht
  exact ⟨t, hsteps, fan_out hsteps, hsubscribers, hclosed, hleaves, haccepted⟩

end Orchestrator.Traffic
