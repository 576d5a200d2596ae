import Orchestrator.Proofs.Event.Posting

/-!
# Failed deliveries

A delivery that fails makes one call to remove its own subscription and no other (`Causes.cause`), and when
that call has looked at the map, the subscription is off it (`Causes.gone`). So it is after every step:
`Founded.step`.
-/
namespace Orchestrator.Traffic

variable {joins joins' : List Join} {leaves : List Leave} {emissions : List Emission}
  {errands : List Errand} {d : String} {id c i n : Nat} {l l' : Leave} {m : Emission} {r r' : Errand}
  {j : Join}

/-- Calls and deliveries have what they come from. -/
structure Causes (joins : List Join) (leaves : List Leave) (emissions : List Emission)
    (errands : List Errand) : Prop where
  targets : ∀ m ∈ emissions, ∀ id ∈ m.targets, Registered joins m.deployment id
  posted : ∀ r ∈ errands, Registered joins r.delivery.deployment r.delivery.subscription
  failed : ∀ (i : Nat) (r : Errand), errands[i]? = some r → r.stage = .failed →
    ∃ l ∈ leaves, l.cause = some i
  cause : ∀ l ∈ leaves, ∀ i, l.cause = some i → ∃ r, errands[i]? = some r ∧ r.stage = .failed ∧
    r.delivery.deployment = l.deployment ∧ r.delivery.subscription = l.id
  gone : ∀ l ∈ leaves, l.cause.isSome = true → l.stage = .told false →
    Removed leaves l.deployment l.id

namespace Causes

theorem start : Causes [] [] [] [] where
  targets m hm := by cases hm
  posted r hr := by cases hr
  failed i r hr := by cases hr
  cause l hl := by cases hl
  gone l hl := by cases hl

variable (h : Causes joins leaves emissions errands)

include h

theorem of_joins (hjoins : ∀ d id, Registered joins d id → Registered joins' d id) :
    Causes joins' leaves emissions errands :=
  ⟨fun m hm id hid => hjoins _ _ (h.targets m hm id hid), fun r hr => hjoins _ _ (h.posted r hr),
    h.failed, h.cause, h.gone⟩

/-- Somebody asks to remove a subscription. -/
theorem leave (hcause : l.cause = none) (hstage : l.stage = .asked) :
    Causes joins (leaves ++ [l]) emissions errands := by
  refine ⟨h.targets, h.posted, fun i r hr hs => ?_, fun k hk i hi => ?_, fun k hk hc hs => ?_⟩
  · obtain ⟨k, hk, hi⟩ := h.failed i r hr hs
    exact ⟨k, List.mem_append_left _ hk, hi⟩
  · rcases List.mem_append.1 hk with hk | hk
    · exact h.cause k hk i hi
    · rw [List.mem_singleton.1 hk, hcause] at hi
      cases hi
  · rcases List.mem_append.1 hk with hk | hk
    · exact (removed_concat (by rw [hstage]; rfl)).2 (h.gone k hk hc hs)
    · rw [List.mem_singleton.1 hk, hcause] at hc
      cases hc

/-- A call goes on. -/
theorem proceed (hl : leaves[c]? = some l) (hd : l'.deployment = l.deployment) (hid : l'.id = l.id)
    (hcause : l'.cause = l.cause) (hstage : l.stage.hasRemoved = true → l'.stage.hasRemoved = true)
    (hgone : l.cause.isSome = true → l'.stage = .told false → Removed leaves l.deployment l.id) :
    Causes joins (leaves.set c l') emissions errands := by
  have hremoved : ∀ {d id}, Removed leaves d id → Removed (leaves.set c l') d id := fun hr =>
    hr.set hl hd hid hstage
  have hmem := List.mem_of_getElem? hl
  refine ⟨h.targets, h.posted, fun i r hr hs => ?_, fun k hk i hi => ?_, fun k hk hc hs => ?_⟩
  · obtain ⟨k, hk, hi⟩ := h.failed i r hr hs
    by_cases hkl : k = l
    · exact ⟨l', List.mem_iff_getElem?.2 ⟨c, getElem?_set_self_of_some hl⟩, by rw [hcause, ← hkl, hi]⟩
    · exact ⟨k, mem_set_of_ne hl hk hkl, hi⟩
  · rcases List.mem_or_eq_of_mem_set hk with hk | rfl
    · exact h.cause k hk i hi
    · rw [hd, hid]
      exact h.cause l hmem i (hcause ▸ hi)
  · rcases List.mem_or_eq_of_mem_set hk with hk | rfl
    · exact hremoved (h.gone k hk hc hs)
    · rw [hd, hid]
      exact hremoved (hgone (hcause ▸ hc) hs)

theorem emit (hm : ∀ id ∈ m.targets, Registered joins m.deployment id) :
    Causes joins leaves (emissions ++ [m]) errands := by
  refine ⟨fun x hx id hid => ?_, h.posted, h.failed, h.cause, h.gone⟩
  rcases List.mem_append.1 hx with hx | hx
  · exact h.targets x hx id hid
  · rw [List.mem_singleton.1 hx] at hid ⊢
    exact hm id hid

theorem spawn (hm : emissions[n]? = some m) (hid : id ∈ m.targets) (ids : List Nat) :
    Causes joins leaves (emissions.set n { m with left := ids })
      (errands ++ [⟨n, ⟨m.deployment, id, m.event⟩, .sending⟩]) := by
  have hmem := List.mem_of_getElem? hm
  refine ⟨fun x hx id hid => ?_, fun r hr => ?_, fun i r hr hs => ?_, fun l hl i hi => ?_, h.gone⟩
  · rcases List.mem_or_eq_of_mem_set hx with hx | rfl
    · exact h.targets x hx id hid
    · exact h.targets m hmem id hid
  · rcases List.mem_append.1 hr with hr | hr
    · exact h.posted r hr
    · rw [List.mem_singleton.1 hr]
      exact h.targets m hmem id hid
  · rcases getElem?_concat_eq_some hr with hr | ⟨-, rfl⟩
    · exact h.failed i r hr hs
    · cases hs
  · obtain ⟨r, hr, hrest⟩ := h.cause l hl i hi
    exact ⟨r, getElem?_concat_of_some hr, hrest⟩

omit h in
/-- A delivery that has failed stays as it is when another one ends. -/
theorem failed_set {k : Nat} {x : Errand} (hr : errands[i]? = some r) (hstage : r.stage = .sending)
    (hx : errands[k]? = some x) (hs : x.stage = .failed) : (errands.set i r')[k]? = some x := by
  have hik : i ≠ k := by
    rintro rfl
    rw [Option.some.inj (hx.symm.trans hr), hstage] at hs
    cases hs
  exact (List.getElem?_set_ne hik).trans hx

/-- A delivery ends without a failure. -/
theorem settle (hr : errands[i]? = some r) (hstage : r.stage = .sending)
    (hdelivery : r'.delivery = r.delivery) (hstage' : r'.stage ≠ .failed) :
    Causes joins leaves emissions (errands.set i r') := by
  refine ⟨h.targets, fun x hx => ?_, fun k x hx hs => ?_, fun l hl k hk => ?_, h.gone⟩
  · rcases List.mem_or_eq_of_mem_set hx with hx | rfl
    · exact h.posted x hx
    · rw [hdelivery]
      exact h.posted r (List.mem_of_getElem? hr)
  · rcases getElem?_set_eq_some hx with ⟨-, rfl⟩ | ⟨-, hx⟩
    · exact absurd hs hstage'
    · exact h.failed k x hx hs
  · obtain ⟨x, hx, hs, hrest⟩ := h.cause l hl k hk
    exact ⟨x, failed_set hr hstage hx hs, hs, hrest⟩

/-- A delivery fails, and asks to remove its subscription. -/
theorem fail (hr : errands[i]? = some r) (hstage : r.stage = .sending) :
    Causes joins
      (leaves ++ [⟨r.delivery.deployment, r.delivery.subscription, some i, .asked⟩]) emissions
      (errands.set i { r with stage := .failed }) := by
  refine ⟨h.targets, fun x hx => ?_, fun k x hx hs => ?_, fun l hl k hk => ?_, fun l hl hc hs => ?_⟩
  · rcases List.mem_or_eq_of_mem_set hx with hx | rfl
    · exact h.posted x hx
    · exact h.posted r (List.mem_of_getElem? hr)
  · rcases getElem?_set_eq_some hx with ⟨rfl, rfl⟩ | ⟨-, hx⟩
    · exact ⟨_, List.mem_append_right _ List.mem_cons_self, rfl⟩
    · obtain ⟨l, hl, hk⟩ := h.failed k x hx hs
      exact ⟨l, List.mem_append_left _ hl, hk⟩
  · rcases List.mem_append.1 hl with hl | hl
    · obtain ⟨x, hx, hs, hrest⟩ := h.cause l hl k hk
      exact ⟨x, failed_set hr hstage hx hs, hs, hrest⟩
    · rw [List.mem_singleton.1 hl] at hk ⊢
      cases hk
      exact ⟨_, getElem?_set_self_of_some hr, rfl, rfl, rfl⟩
  · rcases List.mem_append.1 hl with hl | hl
    · exact (removed_concat rfl).2 (h.gone l hl hc hs)
    · rw [List.mem_singleton.1 hl] at hs
      cases hs

end Causes

/-- The calls and deliveries of a hub have what they come from. -/
abbrev Founded (t : Traffic) : Prop := Causes t.joins t.leaves t.emissions t.errands

variable {t t' : Traffic}

/-- What is put on the map stays put on it. -/
theorem registered_step (h : Registered t.joins d id) (hstep : Step t t') : Registered t'.joins d id := by
  cases hstep with
  | join d guest hguest => exact List.mem_append_left _ h
  | register hj hnew => exact (registered_set hj hnew).2 (.inl h)
  | leave | remove | miss | close | tell | emit | spawn | accept | fail | panic | read | abandon =>
    exact h

/-- A step keeps what calls and deliveries come from. -/
theorem Founded.step (h : t.Founded) (hkept : t.Kept) (hposted : t.Posted) (hstep : Step t t') :
    t'.Founded := by
  cases hstep with
  | join d guest hguest => exact h.of_joins fun d id hr => List.mem_append_left _ hr
  | register hj hnew => exact h.of_joins fun d id hr => (registered_set hj hnew).2 (.inl hr)
  | leave d id => exact Causes.leave h rfl rfl
  | remove hl hstage hid =>
    exact Causes.proceed h hl rfl rfl rfl (fun _ => rfl) fun _ hs => nomatch hs
  | @miss c l hl hstage hid =>
    refine Causes.proceed h hl rfl rfl rfl (fun hs => ?_) fun hc _ => ?_
    · rw [hstage] at hs
      cases hs
    · -- the subscription was on the map once, and is not now
      obtain ⟨i, hi⟩ := Option.isSome_iff_exists.1 hc
      obtain ⟨r, hr, -, hd, hid'⟩ := h.cause l (List.mem_of_getElem? hl) i hi
      have hregistered := h.posted r (List.mem_of_getElem? hr)
      rw [hd, hid'] at hregistered
      exact Classical.not_not.1 fun hnot => hid ((hkept.mem_iff _ _).2 ⟨hregistered, hnot⟩)
  | close hl hstage => exact Causes.proceed h hl rfl rfl rfl (fun _ => rfl) fun _ hs => nomatch hs
  | tell hl hstage => exact Causes.proceed h hl rfl rfl rfl (fun _ => rfl) fun _ hs => nomatch hs
  | emit d e => exact Causes.emit h fun id hid => ((hkept.mem_iff d id).1 hid).1
  | spawn hm hid => exact Causes.spawn h hm (hposted.mem_targets hm hid) _
  | accept hr hstage hhub => exact Causes.settle h hr hstage rfl (fun hs => nomatch hs)
  | fail hr hstage hhub => exact Causes.fail h hr hstage
  | panic hr hstage hsink => exact Causes.settle h hr hstage rfl (fun hs => nomatch hs)
  | read | abandon => exact h

end Orchestrator.Traffic
