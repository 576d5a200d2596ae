import Orchestrator.Proofs.Event.FanOut

/-!
# What can still reach a follower

A follower takes an event by a delivery that was started to it, and such a delivery is started only for an
event that was raised while its subscription was on the map. So once the subscription is off the map and
nothing is under way to its follower (`IsSupplied`), the follower has taken all that it ever takes:
`not_supplied_step`, `acceptedBy_of_not_supplied`. A call that unsubscribes has taken its subscription off the
map, or found that another call has, when it goes on from looking at the map: `leave_step`.
-/
namespace Orchestrator.Traffic

variable {t t' : Traffic} {d : String} {k c : Nat} {l : Leave}

/-! ## Steps -/

theorem next_le_step (hstep : Step t t') : t.hub.next ≤ t'.hub.next := by
  cases hstep with
  | join d guest hguest => exact Nat.le_succ _
  | accept hr hstage hhub | fail hr hstage hhub => exact Nat.le_of_eq hhub.sameMap.1.symm
  | close hl hstage | abandon sink => exact Nat.le_of_eq (t.hub.sameMap_updateFollower _ _).1.symm
  | register | leave | remove | miss | tell | emit | spawn | panic | read => exact Nat.le_refl _

/-- A call is for a subscription, and when it has looked at the map, the subscription is off it. -/
structure IsFor (d : String) (k : Nat) (t : Traffic) (l : Leave) : Prop where
  deployment : l.deployment = d
  id : l.id = k
  removed : l.stage ≠ .asked → Removed t.leaves d k

/-- A call goes on with the subscription that it was made for. -/
theorem leave_step (hs : t.Sound) (hregistered : Registered t.joins d k) (hl : t.leaves[c]? = some l)
    (h : IsFor d k t l) (hstep : Step t t') : ∃ l', t'.leaves[c]? = some l' ∧ IsFor d k t' l' := by
  have hsame (hl' : t'.leaves[c]? = some l) : ∃ l', t'.leaves[c]? = some l' ∧ IsFor d k t' l' :=
    ⟨l, hl', h.deployment, h.id, fun hstage => removed_step (h.removed hstage) hstep⟩
  -- one call goes on, which may be this one
  have hgoes {c' : Nat} {l₁ : Leave} {stage : Leave.Stage} (hl₁ : t.leaves[c']? = some l₁)
      (hleaves : t'.leaves = t.leaves.set c' { l₁ with stage := stage })
      (hremoved : l₁ = l → Removed t'.leaves d k) : ∃ l', t'.leaves[c]? = some l' ∧ IsFor d k t' l' := by
    by_cases hc : c' = c
    · subst hc
      obtain rfl := Option.some.inj (hl₁.symm.trans hl)
      exact ⟨{ l₁ with stage := stage }, hleaves ▸ getElem?_set_self_of_some hl, h.deployment, h.id,
        fun _ => hremoved rfl⟩
    · exact hsame (hleaves ▸ (List.getElem?_set_ne hc).trans hl)
  cases hstep with
  | leave | fail => exact hsame (getElem?_concat_of_some hl)
  | @remove c' l₁ hl₁ hstage hid =>
    refine hgoes hl₁ rfl fun heq => ?_
    subst heq
    exact ⟨_, List.mem_iff_getElem?.2 ⟨c', getElem?_set_self_of_some hl₁⟩, h.deployment, h.id, rfl⟩
  | @miss c' l₁ hl₁ hstage hid =>
    refine hgoes hl₁ rfl fun heq => removed_step ?_ (.miss hl₁ hstage hid)
    subst heq
    rw [h.deployment, h.id] at hid
    exact Classical.not_not.1 fun hnot => hid ((hs.kept.mem_iff d k).2 ⟨hregistered, hnot⟩)
  | close hl₁ hstage =>
    refine hgoes hl₁ rfl fun heq => removed_step (h.removed ?_) (.close hl₁ hstage)
    rw [← heq, hstage]
    nofun
  | tell hl₁ hstage =>
    refine hgoes hl₁ rfl fun heq => removed_step (h.removed ?_) (.tell hl₁ hstage)
    rw [← heq, hstage]
    nofun
  | join | register | emit | spawn | accept | panic | read | abandon => exact hsame hl

/-! ## Supply -/

/-- Can events still reach the follower of a subscription? -/
def IsSupplied (t : Traffic) (d : String) (k : Nat) : Prop :=
  k ∈ t.hub.subscribers d ∨ (∃ m ∈ t.emissions, k ∈ m.left) ∨
    ∃ r ∈ t.errands, r.delivery.subscription = k ∧ r.stage = .sending

instance (t : Traffic) (d : String) (k : Nat) : Decidable (t.IsSupplied d k) :=
  inferInstanceAs (Decidable (_ ∨ _))

/-- Nobody else has the follower of a subscription. -/
def IsOwn (t : Traffic) (k : Nat) : Prop := ∀ id, t.sink id = k ↔ id = k

/-- Followers that come change nothing of what others have taken. -/
theorem acceptedBy_join (hs : t.Sound) (guest : Guest) :
    acceptedBy (t.join d guest).sink t.accepted k = acceptedBy t.sink t.accepted k := by
  have hsink : ∀ id, id < t.hub.next → (t.join d guest).sink id = t.sink id := by
    intro id hid
    cases guest with
    | again j => exact Function.update_of_ne (Nat.ne_of_lt hid) _ _
    | channel | counting | stranger => rfl
  unfold acceptedBy
  congr 1
  refine List.filter_congr fun a ha => ?_
  rw [hsink _ (hs.housed.accepted_lt a ha)]

/-- A step lets a follower take one event at most, and only one that was being sent to it. -/
theorem acceptedBy_step (hs : t.Sound) (hown : t.IsOwn k) (hstep : Step t t') :
    acceptedBy t'.sink t'.accepted k = acceptedBy t.sink t.accepted k ∨
      ∃ r ∈ t.errands, r.delivery.subscription = k ∧ r.stage = .sending ∧
        acceptedBy t'.sink t'.accepted k = acceptedBy t.sink t.accepted k ++ [r.delivery.event] := by
  cases hstep with
  | join d guest hguest => exact .inl (acceptedBy_join hs guest)
  | @accept i r hub hr hstage hhub =>
    have hconcat := acceptedBy_concat t.sink t.accepted r.key k
    by_cases hk : t.sink r.key.2.subscription = k
    · rw [if_pos hk] at hconcat
      exact .inr ⟨r, List.mem_of_getElem? hr, (hown _).1 hk, hstage, hconcat⟩
    · rw [if_neg hk, List.append_nil] at hconcat
      exact .inl hconcat
  | register | leave | remove | miss | close | tell | emit | spawn | fail | panic | read | abandon =>
    exact .inl rfl

/-- What nothing can reach any more stays so. -/
theorem not_supplied_step (hs : t.Sound) (hregistered : Registered t.joins d k) (h : ¬ t.IsSupplied d k)
    (hstep : Step t t') : ¬ t'.IsSupplied d k := by
  rintro (hmem | ⟨m, hm, hleft⟩ | ⟨r, hr, hsubscription, hsending⟩)
  · exact h (.inl (hs.mem_of_step hregistered hstep hmem))
  · cases hstep with
    | emit d' e =>
      rcases List.mem_append.1 hm with hm | hm
      · exact h (.inr (.inl ⟨m, hm, hleft⟩))
      · rw [List.mem_singleton.1 hm] at hleft
        obtain rfl := hs.kept.deployment_eq hregistered ((hs.kept.mem_iff d' k).1 hleft).1
        exact h (.inl hleft)
    | spawn hx hid =>
      rcases List.mem_or_eq_of_mem_set hm with hm | rfl
      · exact h (.inr (.inl ⟨m, hm, hleft⟩))
      · exact h (.inr (.inl ⟨_, List.mem_of_getElem? hx, List.mem_of_mem_erase hleft⟩))
    | join | register | leave | remove | miss | close | tell | accept | fail | panic | read | abandon =>
      exact h (.inr (.inl ⟨m, hm, hleft⟩))
  · cases hstep with
    | spawn hx hid =>
      rcases List.mem_append.1 hr with hr | hr
      · exact h (.inr (.inr ⟨r, hr, hsubscription, hsending⟩))
      · rw [List.mem_singleton.1 hr] at hsubscription
        exact h (.inr (.inl ⟨_, List.mem_of_getElem? hx, hsubscription ▸ hid⟩))
    | accept hx hstage hhub | fail hx hstage hhub | panic hx hstage hsink =>
      rcases List.mem_or_eq_of_mem_set hr with hr | rfl
      · exact h (.inr (.inr ⟨r, hr, hsubscription, hsending⟩))
      · cases hsending
    | join | register | leave | remove | miss | close | tell | emit | read | abandon =>
      exact h (.inr (.inr ⟨r, hr, hsubscription, hsending⟩))

/-- The follower has taken all that it ever takes. -/
theorem acceptedBy_of_not_supplied (hs : t.Sound) (hown : t.IsOwn k) (h : ¬ t.IsSupplied d k)
    (hstep : Step t t') : acceptedBy t'.sink t'.accepted k = acceptedBy t.sink t.accepted k := by
  rcases acceptedBy_step hs hown hstep with heq | ⟨r, hr, hsubscription, hsending, -⟩
  · exact heq
  · exact absurd (.inr (.inr ⟨r, hr, hsubscription, hsending⟩)) h

theorem acceptedBy_grows (hs : t.Sound) (hown : t.IsOwn k) (hstep : Step t t') :
    acceptedBy t.sink t.accepted k <+: acceptedBy t'.sink t'.accepted k := by
  rcases acceptedBy_step hs hown hstep with heq | ⟨r, -, -, -, heq⟩
  · exact heq ▸ List.prefix_refl _
  · exact heq ▸ List.prefix_append _ _

/-! ## The reader -/

/-- Does somebody read the follower? -/
def Reads (t : Traffic) (k : Nat) : Prop := ∃ f, t.hub.followers.find? k = some f ∧ HasReader f

instance : DecidablePred HasReader
  | .buffer _ _ isRead => inferInstanceAs (Decidable (isRead = true))
  | .counting .. => .isTrue trivial

instance (t : Traffic) (k : Nat) : Decidable (t.Reads k) :=
  inferInstanceAs (Decidable (∃ f ∈ t.hub.followers.find? k, HasReader f))

theorem takenFrom_read (t : Traffic) (k j : Nat) (f : Follower) (n : Nat) :
    takenFrom (t.read k f n).taken j = takenFrom t.taken j ++ if j = k then f.events.take n else [] :=
  takenFrom_append t.taken (f.events.take n) k j

theorem hasReader_drop {f : Follower} (n : Nat) (h : HasReader f) : HasReader (f.drop n) := by
  cases f <;> exact h

/-- One follower changes, and keeps its reader. -/
theorem Reads.insert (h : t.Reads k) {j : Nat} {f f' : Follower} (hf : t.hub.followers.find? j = some f)
    (hreader : HasReader f → HasReader f') :
    ∃ x, (t.hub.followers.insert j f').find? k = some x ∧ HasReader x := by
  by_cases hk : k = j
  · subst hk
    obtain ⟨x, hx, hread⟩ := h
    cases hf.symm.trans hx
    exact ⟨f', find?_insert_self _ _, hreader hread⟩
  · rw [find?_insert_of_ne hk]
    exact h

theorem find?_updateFollower_of_ne (hub : Hub) (g : Follower → Follower) {j : Nat} (h : k ≠ j) :
    (hub.updateFollower j g).followers.find? k = hub.followers.find? k := by
  unfold Hub.updateFollower
  cases hub.followers.find? j with
  | none => rfl
  | some f => exact find?_insert_of_ne h _

theorem Reads.updateFollower (h : t.Reads k) {j : Nat} {g : Follower → Follower}
    (hreader : j = k → ∀ f, HasReader f → HasReader (g f)) :
    ∃ x, (t.hub.updateFollower j g).followers.find? k = some x ∧ HasReader x := by
  by_cases hj : j = k
  · unfold Hub.updateFollower
    cases hf : t.hub.followers.find? j with
    | none => exact h
    | some f => exact h.insert hf (hreader hj f)
  · rw [find?_updateFollower_of_ne _ _ (Ne.symm hj)]
    exact h

theorem hasReader_send {f : Follower} (e : Event) (h : HasReader f) : HasReader (f.send e).2 := by
  cases f with
  | buffer capacity events isRead =>
    obtain rfl : isRead = true := h
    by_cases hfull : capacity ≤ events.length <;> simp [Follower.send, HasReader, hfull]
  | counting left events sends closes => cases left <;> exact h

theorem Reads.answers (h : t.Reads k) {j : Nat} {e : Event} {answer : Except DeliveryError Unit} {hub : Hub}
    (hhub : t.hub.Answers j e answer hub) : ∃ x, hub.followers.find? k = some x ∧ HasReader x := by
  cases hhub with
  | follower hf => exact h.insert hf (hasReader_send e)
  | stranger hf => exact h

/-- A step that leaves a follower to its one subscription and to its reader. -/
structure Beside (k : Nat) (t t' : Traffic) : Prop where
  step : Step t t'
  taken : takenFrom t'.taken k = takenFrom t.taken k
  reads : t.Reads k → t'.Reads k
  sink : ∀ id, t'.sink id = k → t.sink id = k

/-- Any number of such steps. -/
abbrev Besides (k : Nat) : Traffic → Traffic → Prop := Relation.ReflTransGen (Beside k)

/-- A follower that comes by itself is not one that was there. -/
theorem beside_join {guest : Guest} (hk : t.Reads k → k < t.hub.next) (hguest : ∀ id, guest ≠ .again id) :
    Beside k t (t.join d guest) where
  step := .join d guest fun id hid => absurd hid (hguest id)
  taken := rfl
  reads h := by
    have hne := Nat.ne_of_lt (hk h)
    obtain ⟨f, hf, hread⟩ := h
    cases guest with
    | channel | counting => exact ⟨f, (find?_insert_of_ne hne _).trans hf, hread⟩
    | stranger => exact ⟨f, hf, hread⟩
    | again id => exact absurd rfl (hguest id)
  sink id h := by
    cases guest with
    | channel | counting | stranger => exact h
    | again id => exact absurd rfl (hguest id)

theorem beside_close (hl : t.leaves[c]? = some l) (hstage : l.stage = .removed) :
    Beside k t (t.close c l) where
  step := .close hl hstage
  taken := rfl
  reads h := h.updateFollower fun _ f hf => by cases f <;> exact hf
  sink _ h := h

/-- All steps are such, but those that read the follower, take its reader away, or subscribe it once more. -/
theorem beside_or (hs : t.Sound) (hstep : Step t t') : Beside k t t' ∨ (∃ f n, t' = t.read k f n) ∨
    t' = t.abandon k ∨ ∃ d id, t.sink id = k ∧ t' = t.join d (.again id) := by
  have hwhole := hstep
  cases hstep with
  | join d guest hguest =>
    cases guest with
    | channel | counting | stranger =>
      exact .inl (beside_join (fun ⟨_, hf, _⟩ => hs.housed.lt_of_find? hf) nofun)
    | again id =>
      by_cases hid : t.sink id = k
      · exact .inr (.inr (.inr ⟨d, id, hid, rfl⟩))
      · refine .inl ⟨hwhole, rfl, fun h => h, fun x hx => ?_⟩
        change Function.update t.sink t.hub.next (t.sink id) x = k at hx
        by_cases hnext : x = t.hub.next
        · rw [hnext, Function.update_self] at hx
          exact absurd hx hid
        · rwa [Function.update_of_ne hnext] at hx
  | close hl hstage => exact .inl (beside_close hl hstage)
  | accept hr hstage hhub | fail hr hstage hhub =>
    exact .inl ⟨hwhole, rfl, fun h => h.answers hhub, fun _ h => h⟩
  | @read j f hf n =>
    by_cases hj : j = k
    · exact .inr (.inl ⟨f, n, hj ▸ rfl⟩)
    · refine .inl ⟨hwhole, ?_, fun h => h.insert hf (hasReader_drop n), fun _ h => h⟩
      rw [takenFrom_read, if_neg (Ne.symm hj), List.append_nil]
  | abandon j =>
    by_cases hj : j = k
    · exact .inr (.inr (.inl (hj ▸ rfl)))
    · exact .inl ⟨hwhole, rfl, fun h => h.updateFollower fun heq => absurd heq hj, fun _ h => h⟩
  | register | leave | remove | miss | tell | emit | spawn | panic =>
    exact .inl ⟨hwhole, rfl, fun h => h, fun _ h => h⟩

/-- A step by which nobody subscribes leaves each follower to its subscriptions. -/
theorem sink_of_joins (hstep : Step t t') (hjoins : t'.joins.length = t.joins.length) : t'.sink = t.sink := by
  cases hstep with
  | join d guest hguest =>
    have hlength : (t.join d guest).joins.length = t.joins.length + 1 := List.length_append
    omega
  | register | leave | remove | miss | close | tell | emit | spawn | accept | fail | panic | read
  | abandon => rfl

theorem IsOwn.beside (h : t.IsOwn k) (hk : k < t.hub.next) (hbeside : Beside k t t') : t'.IsOwn k := by
  refine fun id => ⟨fun hid => (h id).1 (hbeside.sink id hid), ?_⟩
  rintro rfl
  rw [sink_step hk hbeside.step]
  exact (h id).2 rfl

end Orchestrator.Traffic
