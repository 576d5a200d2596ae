import Orchestrator.Proofs.Event.Causes

/-!
# The followers

A follower is told to close once for each of its subscriptions at most, by the call that took it off the map
(`Closing`). What a follower has taken and its reader has not is in the follower, in the order in which it
was taken, and a follower of the hub's own kinds does not panic (`Housing`).
-/
namespace Orchestrator.Traffic

variable {joins : List Join} {leaves : List Leave} {errands : List Errand} {closed : List Nat}
  {d : String} {id c i k : Nat} {l l' : Leave} {r r' : Errand} {t t' : Traffic}

/-! ## Closing -/

theorem Leave.Stage.hasRemoved_of_hasClosed {s : Leave.Stage} (h : s.hasClosed = true) :
    s.hasRemoved = true := by
  cases s <;> first | exact h | rfl

/-- The followers that were told to close agree with the calls. -/
structure Closing (leaves : List Leave) (closed : List Nat) : Prop where
  nodup : closed.Nodup
  mem_iff : ∀ id, id ∈ closed ↔ ∃ l ∈ leaves, l.id = id ∧ l.stage.hasClosed = true

namespace Closing

variable (h : Closing leaves closed)

include h

theorem leave (hl : l.stage.hasClosed = false) : Closing (leaves ++ [l]) closed := by
  refine ⟨h.nodup, fun id => ?_⟩
  rw [h.mem_iff]
  simp [hl, or_and_right, exists_or]

/-- A call goes on without telling its follower to close. -/
theorem proceed (hl : leaves[c]? = some l) (hid : l'.id = l.id)
    (hstage : l'.stage.hasClosed = l.stage.hasClosed) : Closing (leaves.set c l') closed := by
  refine ⟨h.nodup, fun id => ?_⟩
  rw [h.mem_iff]
  constructor
  · rintro ⟨k, hk, rfl, hs⟩
    by_cases hkl : k = l
    · exact ⟨l', List.mem_iff_getElem?.2 ⟨c, getElem?_set_self_of_some hl⟩, by rw [hid, hkl],
        by rw [hstage, ← hkl, hs]⟩
    · exact ⟨k, mem_set_of_ne hl hk hkl, rfl, hs⟩
  · rintro ⟨k, hk, rfl, hs⟩
    rcases List.mem_or_eq_of_mem_set hk with hk | rfl
    · exact ⟨k, hk, rfl, hs⟩
    · exact ⟨l, List.mem_of_getElem? hl, hid.symm, hstage ▸ hs⟩

theorem close {next : Nat} {subscribers : String → List Nat}
    (hkept : Register next subscribers joins leaves) (hl : leaves[c]? = some l)
    (hstage : l.stage = .removed) :
    Closing (leaves.set c { l with stage := .closing }) (closed ++ [l.id]) := by
  have hnew : l.id ∉ closed := by
    intro hmem
    obtain ⟨k, hk, hid, hs⟩ := (h.mem_iff _).1 hmem
    obtain ⟨i, hi⟩ := List.mem_iff_getElem?.1 hk
    have hic := hkept.once i c k l hi hl (Leave.Stage.hasRemoved_of_hasClosed hs)
      (by rw [hstage]; rfl) hid
    rw [hic, hl] at hi
    rw [← Option.some.inj hi, hstage] at hs
    cases hs
  refine ⟨?_, fun id => ?_⟩
  · refine List.nodup_append.2 ⟨h.nodup, List.nodup_singleton _, ?_⟩
    rintro a ha b hb rfl
    exact hnew (List.mem_singleton.1 hb ▸ ha)
  · rw [List.mem_append, List.mem_singleton, h.mem_iff]
    constructor
    · rintro (⟨k, hk, rfl, hs⟩ | rfl)
      · refine ⟨k, mem_set_of_ne hl hk fun hkl => ?_, rfl, hs⟩
        rw [hkl, hstage] at hs
        cases hs
      · exact ⟨_, List.mem_iff_getElem?.2 ⟨c, getElem?_set_self_of_some hl⟩, rfl, rfl⟩
    · rintro ⟨k, hk, rfl, hs⟩
      rcases List.mem_or_eq_of_mem_set hk with hk | rfl
      · exact .inl ⟨k, hk, rfl, hs⟩
      · exact .inr rfl

end Closing

theorem closing_step (h : Closing t.leaves t.closed) (hkept : t.Kept) (hstep : Step t t') :
    Closing t'.leaves t'.closed := by
  cases hstep with
  | leave d id => exact h.leave rfl
  | remove hl hstage hid => exact h.proceed hl rfl (by rw [hstage]; rfl)
  | miss hl hstage hid => exact h.proceed hl rfl (by rw [hstage]; rfl)
  | close hl hstage => exact h.close hkept hl hstage
  | tell hl hstage => exact h.proceed hl rfl (by rw [hstage]; rfl)
  | fail hr hstage hhub => exact h.leave rfl
  | join | register | emit | spawn | accept | panic | read | abandon => exact h

/-! ## What followers hold -/

/-- Is there somebody who reads the follower? -/
def HasReader : Follower → Prop
  | .buffer _ _ isRead => isRead = true
  | .counting .. => True

theorem events_close (f : Follower) : f.close.events = f.events ∧ (HasReader f.close → HasReader f) := by
  cases f <;> exact ⟨rfl, fun h => h⟩

theorem events_abandon {f : Follower} (h : HasReader f.abandon) :
    f.abandon.events = f.events ∧ HasReader f := by
  cases f with
  | buffer => cases h
  | counting => exact ⟨rfl, h⟩

/-- A follower takes an event as the last, or is left as it was. -/
theorem events_send (f : Follower) (e : Event) :
    (HasReader (f.send e).2 → HasReader f) ∧
      (((f.send e).1 = .ok () ∧ (f.send e).2.events = f.events ++ [e]) ∨
        ((∃ error, (f.send e).1 = .error error) ∧ (f.send e).2.events = f.events)) := by
  cases f with
  | buffer capacity events isRead =>
    unfold Follower.send
    cases isRead with
    | false => exact ⟨fun h => h, .inr ⟨⟨_, rfl⟩, rfl⟩⟩
    | true =>
      by_cases hfull : capacity ≤ events.length
      · simp only [ge_iff_le, hfull, if_true]
        exact ⟨fun h => h, .inr ⟨⟨_, rfl⟩, rfl⟩⟩
      · simp only [ge_iff_le, hfull, if_false]
        exact ⟨fun h => h, .inl ⟨rfl, rfl⟩⟩
  | counting left events sends closes =>
    cases left with
    | zero => exact ⟨fun h => h, .inr ⟨⟨_, rfl⟩, rfl⟩⟩
    | succ left => exact ⟨fun h => h, .inl ⟨rfl, rfl⟩⟩

/-- The events that a follower has taken. -/
def acceptedBy (sink : Nat → Nat) (accepted : List (Nat × Delivery)) (k : Nat) : List Event :=
  (accepted.filter fun a => sink a.2.subscription = k).map fun a => a.2.event

/-- The events that its reader has taken from it. -/
def takenFrom (taken : List (Nat × Event)) (k : Nat) : List Event :=
  (taken.filter fun a => a.1 = k).map Prod.snd

theorem acceptedBy_concat (sink : Nat → Nat) (accepted : List (Nat × Delivery)) (a : Nat × Delivery) (k : Nat) :
    acceptedBy sink (accepted ++ [a]) k =
      acceptedBy sink accepted k ++ if sink a.2.subscription = k then [a.2.event] else [] := by
  unfold acceptedBy
  by_cases hk : sink a.2.subscription = k <;> simp [hk]

theorem takenFrom_append (taken : List (Nat × Event)) (events : List Event) (k j : Nat) :
    takenFrom (taken ++ events.map (k, ·)) j = takenFrom taken j ++ if j = k then events else [] := by
  unfold takenFrom
  rw [List.filter_append, List.map_append, List.filter_map, List.map_map]
  by_cases hj : j = k
  · simp [hj, Function.comp_def]
  · simp [hj, Ne.symm hj, Function.comp_def]

/-- The followers agree with what was sent and read. -/
structure Housing (next : Nat) (followers : SortedMap Nat Follower) (sink : Nat → Nat)
    (accepted : List (Nat × Delivery)) (taken : List (Nat × Event)) : Prop where
  fresh : ∀ k, next ≤ k → followers.find? k = none ∧ sink k = k
  sink_lt : ∀ id, id < next → sink id < next
  accepted_lt : ∀ a ∈ accepted, a.2.subscription < next
  taken_lt : ∀ a ∈ taken, a.1 < next
  held : ∀ k f, followers.find? k = some f → HasReader f →
    takenFrom taken k ++ f.events = acceptedBy sink accepted k

variable {next n : Nat} {followers followers' : SortedMap Nat Follower} {sink sink' : Nat → Nat}
  {accepted : List (Nat × Delivery)} {taken : List (Nat × Event)} {f f' : Follower}

theorem find?_insert_self (k : Nat) (f : Follower) : (followers.insert k f).find? k = some f := by
  rw [SortedMap.find?_insert, if_pos Std.ReflCmp.compare_self]

theorem find?_insert_of_ne {j : Nat} (h : j ≠ k) (f : Follower) :
    (followers.insert k f).find? j = followers.find? j := by
  rw [SortedMap.find?_insert, if_neg fun heq => h (Std.LawfulEqOrd.eq_of_compare heq)]

/-- A follower that is not there is not there after another one has changed. -/
theorem find?_insert_of_none {j : Nat} (hf : followers.find? k = some f)
    (hnone : followers.find? j = none) (g : Follower) : (followers.insert k g).find? j = none := by
  have hjk : j ≠ k := by
    rintro rfl
    rw [hf] at hnone
    cases hnone
  rw [find?_insert_of_ne hjk, hnone]

namespace Housing

theorem start : Housing 0 ∅ (fun id => id) [] [] where
  fresh k _ := ⟨rfl, rfl⟩
  sink_lt id h := h
  accepted_lt a ha := by cases ha
  taken_lt a ha := by cases ha
  held k f hf := by cases hf

section

variable (h : Housing next followers sink accepted taken)

include h

theorem lt_of_find? (hf : followers.find? k = some f) : k < next := by
  refine Nat.lt_of_not_le fun hk => ?_
  rw [(h.fresh k hk).1] at hf
  cases hf

/-- Followers may change in what has nothing to do with events. -/
theorem of_followers (hnone : ∀ k, followers.find? k = none → followers'.find? k = none)
    (hsome : ∀ k f', followers'.find? k = some f' → HasReader f' →
      ∃ f, followers.find? k = some f ∧ HasReader f ∧ f'.events = f.events) :
    Housing next followers' sink accepted taken := by
  refine ⟨fun k hk => ?_, h.sink_lt, h.accepted_lt, h.taken_lt, fun k f' hf' hreader => ?_⟩
  · exact ⟨hnone k (h.fresh k hk).1, (h.fresh k hk).2⟩
  · obtain ⟨f, hf, hread, hevents⟩ := hsome k f' hf' hreader
    rw [hevents]
    exact h.held k f hf hread

/-- One follower may change in what has nothing to do with events. -/
theorem insert (hf : followers.find? k = some f) (hreader : HasReader f' → HasReader f)
    (hevents : HasReader f' → f'.events = f.events) :
    Housing next (followers.insert k f') sink accepted taken := by
  refine h.of_followers (fun j hj => find?_insert_of_none hf hj _) fun j x hx hread => ?_
  by_cases hjk : j = k
  · subst hjk
    rw [find?_insert_self] at hx
    cases hx
    exact ⟨f, hf, hreader hread, hevents hread⟩
  · rw [find?_insert_of_ne hjk] at hx
    exact ⟨x, hx, hread, rfl⟩

/-- A follower comes, on its own or for one more subscription. -/
theorem join (hsink : ∀ id, id ≠ next → sink' id = sink id) (hnew : sink' next ≤ next)
    (hfollowers : ∀ k, k ≠ next → followers'.find? k = followers.find? k)
    (hempty : ∀ f, followers'.find? next = some f → f.events = []) :
    Housing (next + 1) followers' sink' accepted taken := by
  have hsame : ∀ k, acceptedBy sink' accepted k = acceptedBy sink accepted k := by
    intro k
    unfold acceptedBy
    congr 1
    refine List.filter_congr fun a ha => ?_
    rw [hsink _ (Nat.ne_of_lt (h.accepted_lt a ha))]
  refine ⟨fun k hk => ?_, fun id hid => ?_, fun a ha => Nat.lt_succ_of_lt (h.accepted_lt a ha),
    fun a ha => Nat.lt_succ_of_lt (h.taken_lt a ha), fun k f hf hreader => ?_⟩
  · have hne : k ≠ next := Nat.ne_of_gt hk
    rw [hfollowers k hne, hsink k hne]
    exact h.fresh k (Nat.le_of_succ_le hk)
  · rcases Nat.lt_succ_iff_lt_or_eq.1 hid with hid | rfl
    · rw [hsink id (Nat.ne_of_lt hid)]
      exact Nat.lt_succ_of_lt (h.sink_lt id hid)
    · exact Nat.lt_succ_of_le hnew
  · rw [hsame]
    by_cases hk : k = next
    · -- nothing was sent to the new follower yet
      subst hk
      have htaken : takenFrom taken k = [] := by
        rw [takenFrom, List.map_eq_nil_iff, List.filter_eq_nil_iff]
        intro a ha
        simpa using Nat.ne_of_lt (h.taken_lt a ha)
      have haccepted : acceptedBy sink accepted k = [] := by
        rw [acceptedBy, List.map_eq_nil_iff, List.filter_eq_nil_iff]
        intro a ha
        simpa using Nat.ne_of_lt (h.sink_lt _ (h.accepted_lt a ha))
      rw [htaken, haccepted, hempty f hf]
      rfl
    · rw [hfollowers k hk] at hf
      exact h.held k f hf hreader

end

/-- A follower takes an event. -/
theorem accept {hub hub' : Hub} (h : Housing next hub.followers sink accepted taken)
    {a : Nat × Delivery} (ha : a.2.subscription < next)
    (hanswers : hub.Answers (sink a.2.subscription) a.2.event (.ok ()) hub') :
    Housing next hub'.followers sink (accepted ++ [a]) taken := by
  have hlt : ∀ x ∈ accepted ++ [a], x.2.subscription < next := by
    intro x hx
    rcases List.mem_append.1 hx with hx | hx
    · exact h.accepted_lt x hx
    · rw [List.mem_singleton.1 hx]
      exact ha
  generalize hok : (.ok () : Except DeliveryError Unit) = answer at hanswers
  cases hanswers with
  | @follower f hf =>
    obtain ⟨hreader, ⟨-, hevents⟩ | ⟨⟨e, he⟩, -⟩⟩ := events_send f a.2.event
    · refine ⟨fun k hk => ?_, h.sink_lt, hlt, h.taken_lt, fun k x hx hread => ?_⟩
      · rw [find?_insert_of_ne (Nat.ne_of_gt (Nat.lt_of_lt_of_le (h.sink_lt _ ha) hk))]
        exact h.fresh k hk
      · rw [acceptedBy_concat]
        by_cases hk : k = sink a.2.subscription
        · subst hk
          rw [find?_insert_self] at hx
          cases hx
          rw [if_pos rfl, hevents, ← List.append_assoc, h.held _ f hf (hreader hread)]
        · rw [find?_insert_of_ne hk] at hx
          rw [if_neg (Ne.symm hk), List.append_nil]
          exact h.held k x hx hread
    · rw [he] at hok
      cases hok
  | stranger hf =>
    refine ⟨h.fresh, h.sink_lt, hlt, h.taken_lt, fun k x hx hread => ?_⟩
    have hk : sink a.2.subscription ≠ k := by
      rintro rfl
      rw [hf] at hx
      cases hx
    rw [acceptedBy_concat, if_neg hk, List.append_nil]
    exact h.held k x hx hread

/-- A follower does not take an event. -/
theorem fail {hub hub' : Hub} (h : Housing next hub.followers sink accepted taken) {e : Event}
    {error : DeliveryError} (hanswers : hub.Answers k e (.error error) hub') :
    Housing next hub'.followers sink accepted taken := by
  generalize herror : (.error error : Except DeliveryError Unit) = answer at hanswers
  cases hanswers with
  | @follower f hf =>
    obtain ⟨hreader, ⟨hok, -⟩ | ⟨-, hevents⟩⟩ := events_send f e
    · rw [hok] at herror
      cases herror
    · exact h.insert hf hreader fun _ => hevents
  | stranger hf => exact h

theorem updateFollower {hub : Hub} (h : Housing next hub.followers sink accepted taken)
    {g : Follower → Follower} (hreader : ∀ f, HasReader (g f) → HasReader f)
    (hevents : ∀ f, HasReader (g f) → (g f).events = f.events) :
    Housing next (hub.updateFollower k g).followers sink accepted taken := by
  unfold Hub.updateFollower
  cases hf : hub.followers.find? k with
  | none => exact h
  | some f => exact h.insert hf (hreader f) (hevents f)

/-- A reader takes the oldest events. -/
theorem read (h : Housing next followers sink accepted taken) (hf : followers.find? k = some f)
    (n : Nat) :
    Housing next (followers.insert k (f.drop n)) sink accepted
      (taken ++ (f.events.take n).map (k, ·)) := by
  have hk := h.lt_of_find? hf
  have hdrop : (f.drop n).events = f.events.drop n ∧ (HasReader (f.drop n) → HasReader f) := by
    cases f <;> exact ⟨rfl, fun h => h⟩
  refine ⟨fun j hj => ?_, h.sink_lt, h.accepted_lt, fun a ha => ?_, fun j x hx hread => ?_⟩
  · rw [find?_insert_of_ne (Nat.ne_of_gt (Nat.lt_of_lt_of_le hk hj))]
    exact h.fresh j hj
  · rcases List.mem_append.1 ha with ha | ha
    · exact h.taken_lt a ha
    · obtain ⟨e, -, rfl⟩ := List.mem_map.1 ha
      exact hk
  · rw [takenFrom_append]
    by_cases hj : j = k
    · subst hj
      rw [find?_insert_self] at hx
      cases hx
      rw [if_pos rfl, hdrop.1, List.append_assoc, List.take_append_drop]
      exact h.held j f hf (hdrop.2 hread)
    · rw [find?_insert_of_ne hj] at hx
      rw [if_neg hj, List.append_nil]
      exact h.held j x hx hread

theorem of_next {next' : Nat} (hnext : next' = next)
    (h : Housing next followers sink accepted taken) : Housing next' followers sink accepted taken :=
  hnext ▸ h

end Housing

/-- The followers of a hub. -/
abbrev Housed (t : Traffic) : Prop :=
  Housing t.hub.next t.hub.followers t.sink t.accepted t.taken

/-- A step keeps the followers in agreement with what was sent and read. -/
theorem Housed.step (h : t.Housed) (hkept : t.Kept) (hfounded : t.Founded) (hstep : Step t t') :
    t'.Housed := by
  have hlt : ∀ {i : Nat} {r : Errand}, t.errands[i]? = some r →
      r.delivery.subscription < t.hub.next := fun hr =>
    hkept.id_lt (hfounded.posted _ (List.mem_of_getElem? hr))
  cases hstep with
  | join d guest hguest =>
    cases guest with
    | channel capacity =>
      refine Housing.join h (fun _ _ => rfl) (Nat.le_of_eq (h.fresh _ (Nat.le_refl _)).2)
        (fun k hk => find?_insert_of_ne hk _) fun f hf => ?_
      rw [show f = Follower.channel capacity from Option.some.inj (hf.symm.trans (find?_insert_self _ _))]
      rfl
    | counting left =>
      refine Housing.join h (fun _ _ => rfl) (Nat.le_of_eq (h.fresh _ (Nat.le_refl _)).2)
        (fun k hk => find?_insert_of_ne hk _) fun f hf => ?_
      rw [show f = .counting left [] 0 0 from Option.some.inj (hf.symm.trans (find?_insert_self _ _))]
      rfl
    | stranger =>
      refine Housing.join h (fun _ _ => rfl) (Nat.le_of_eq (h.fresh _ (Nat.le_refl _)).2)
        (fun _ _ => rfl) fun f hf => ?_
      cases hf.symm.trans (h.fresh _ (Nat.le_refl _)).1
    | again id =>
      have hsink : Function.update t.sink t.hub.next (t.sink id) t.hub.next ≤ t.hub.next := by
        rw [Function.update_self]
        exact Nat.le_of_lt (h.sink_lt id (hguest id rfl))
      refine Housing.join h (fun k hk => Function.update_of_ne hk _ _) hsink (fun _ _ => rfl)
        fun f hf => ?_
      cases hf.symm.trans (h.fresh _ (Nat.le_refl _)).1
  | register hj hnew => exact h
  | remove hl hstage hid => exact h
  | close hl hstage =>
    exact Housing.of_next (t.hub.sameMap_updateFollower _ _).1
      (Housing.updateFollower h (fun f => (events_close f).2) fun f _ => (events_close f).1)
  | accept hr hstage hhub => exact Housing.of_next hhub.sameMap.1 (Housing.accept h (hlt hr) hhub)
  | fail hr hstage hhub => exact Housing.of_next hhub.sameMap.1 (Housing.fail h hhub)
  | read hf n => exact Housing.read h hf n
  | abandon sink =>
    exact Housing.of_next (t.hub.sameMap_updateFollower _ _).1
      (Housing.updateFollower h (fun f hf => (events_abandon hf).2) fun f hf => (events_abandon hf).1)
  | leave | miss | tell | emit | spawn | panic => exact h

end Orchestrator.Traffic
