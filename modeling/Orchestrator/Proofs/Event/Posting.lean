import Orchestrator.Proofs.Event.Register

/-!
# The deliveries of an event

The deliveries that were started for an event and those that are left to start are, together, one for each
subscription that was on the map when the event was raised (`Posting.perm`), and what a follower has taken
it has taken by one of them (`Posting.accepted_iff`). So it is after every step: `Posted.step`.
-/
namespace Orchestrator.Traffic

/-- The deliveries of an event, the `n`th that was raised, to some subscriptions. -/
def Emission.keys (n : Nat) (m : Emission) (ids : List Nat) : List (Nat × Delivery) :=
  ids.map fun id => (n, ⟨m.deployment, id, m.event⟩)

/-- The deliveries that were started for the `n`th event. -/
def started (errands : List Errand) (n : Nat) : List (Nat × Delivery) :=
  (errands.map Errand.key).filter fun key => key.1 = n

/-- The deliveries agree with the events. -/
structure Posting (emissions : List Emission) (errands : List Errand)
    (accepted : List (Nat × Delivery)) : Prop where
  perm : ∀ (n : Nat) (m : Emission), emissions[n]? = some m →
    (started errands n ++ m.keys n m.left).Perm (m.keys n m.targets)
  raised : ∀ r ∈ errands, r.emission < emissions.length
  targets : ∀ m ∈ emissions, m.targets.Nodup
  nodup : (errands.map Errand.key).Nodup
  accepted_nodup : accepted.Nodup
  accepted_iff : ∀ key, key ∈ accepted ↔ ∃ r ∈ errands, r.key = key ∧ r.stage = .accepted

variable {emissions : List Emission} {errands : List Errand} {accepted : List (Nat × Delivery)}
  {n i : Nat} {m : Emission} {r r' : Errand} {id : Nat} {ids : List Nat}

theorem mem_keys {key : Nat × Delivery} :
    key ∈ m.keys n ids ↔ ∃ id ∈ ids, (n, (⟨m.deployment, id, m.event⟩ : Delivery)) = key :=
  List.mem_map

theorem key_injective {id' : Nat} {d d' : String} {e e' : Event}
    (h : (n, (⟨d, id, e⟩ : Delivery)) = (n, ⟨d', id', e'⟩)) : id = id' := by
  cases h
  rfl

theorem nodup_keys (h : ids.Nodup) : (m.keys n ids).Nodup :=
  h.map fun _ _ => key_injective

theorem fst_of_mem_started {key : Nat × Delivery} (h : key ∈ started errands n) : key.1 = n :=
  of_decide_eq_true (List.mem_filter.1 h).2

theorem mem_started {key : Nat × Delivery} (h : key ∈ errands.map Errand.key) :
    key ∈ started errands key.1 :=
  List.mem_filter.2 ⟨h, decide_eq_true rfl⟩

theorem started_concat (r : Errand) :
    started (errands ++ [r]) n = started errands n ++ if r.emission = n then [r.key] else [] := by
  rw [started, List.map_append, List.filter_append]
  by_cases hr : r.emission = n <;> simp [hr, Errand.key, started]

namespace Posting

theorem start : Posting [] [] [] where
  perm n m hm := by cases hm
  raised r hr := by cases hr
  targets m hm := by cases hm
  nodup := List.nodup_nil
  accepted_nodup := List.nodup_nil
  accepted_iff key := by simp

variable (h : Posting emissions errands accepted)

include h

/-- No delivery is both started and left to start. -/
theorem notMem_of_left (hm : emissions[n]? = some m) (hid : id ∈ m.left) :
    (n, (⟨m.deployment, id, m.event⟩ : Delivery)) ∉ errands.map Errand.key := by
  intro hmem
  have hnodup := (h.perm n m hm).nodup_iff.2 (nodup_keys (h.targets m (List.mem_of_getElem? hm)))
  exact (List.nodup_append.1 hnodup).2.2 _ (mem_started hmem) _ (mem_keys.2 ⟨id, hid, rfl⟩) rfl

theorem mem_targets (hm : emissions[n]? = some m) (hid : id ∈ m.left) : id ∈ m.targets := by
  have hkey := (h.perm n m hm).mem_iff.1 (List.mem_append_right _ (mem_keys.2 ⟨id, hid, rfl⟩))
  obtain ⟨id', hid', heq⟩ := mem_keys.1 hkey
  exact key_injective heq ▸ hid'

/-- An event is raised for the subscriptions of the moment. -/
theorem emit (d : String) (e : Event) (hids : ids.Nodup) :
    Posting (emissions ++ [⟨d, e, ids, ids⟩]) errands accepted := by
  refine ⟨fun n m hm => ?_, fun r hr => ?_, fun m hm => ?_, h.nodup, h.accepted_nodup, h.accepted_iff⟩
  · rcases getElem?_concat_eq_some hm with hm | ⟨rfl, rfl⟩
    · exact h.perm n m hm
    · have hnone : started errands emissions.length = [] := by
        refine List.eq_nil_iff_forall_not_mem.2 fun key hkey => ?_
        obtain ⟨r, hr, rfl⟩ := List.mem_map.1 (List.mem_filter.1 hkey).1
        exact Nat.lt_irrefl _ (fst_of_mem_started hkey ▸ h.raised r hr)
      rw [hnone, List.nil_append]
  · rw [List.length_append]
    exact Nat.lt_add_right _ (h.raised r hr)
  · rcases List.mem_append.1 hm with hm | hm
    · exact h.targets m hm
    · rw [List.mem_singleton.1 hm]
      exact hids

/-- A delivery is started. -/
theorem spawn (hm : emissions[n]? = some m) (hid : id ∈ m.left) :
    Posting (emissions.set n { m with left := m.left.erase id })
      (errands ++ [⟨n, ⟨m.deployment, id, m.event⟩, .sending⟩]) accepted := by
  have hlt := (List.getElem?_eq_some_iff.1 hm).1
  refine ⟨fun k x hx => ?_, fun r hr => ?_, fun x hx => ?_, ?_, h.accepted_nodup, fun key => ?_⟩
  · rw [started_concat]
    rcases getElem?_set_eq_some hx with ⟨rfl, rfl⟩ | ⟨hk, hx⟩
    · -- the delivery has moved from those left to those started
      rw [if_pos rfl, List.append_assoc]
      refine List.Perm.trans (List.Perm.append_left _ ?_) (h.perm k m hm)
      exact ((List.perm_cons_erase hid).map fun id => (k, (⟨m.deployment, id, m.event⟩ : Delivery))).symm
    · rw [if_neg (Ne.symm hk), List.append_nil]
      exact h.perm k x hx
  · rw [List.length_set]
    rcases List.mem_append.1 hr with hr | hr
    · exact h.raised r hr
    · rw [List.mem_singleton.1 hr]
      exact hlt
  · rcases List.mem_or_eq_of_mem_set hx with hx | rfl
    · exact h.targets x hx
    · exact h.targets m (List.mem_of_getElem? hm)
  · rw [List.map_append, List.nodup_append]
    refine ⟨h.nodup, List.nodup_singleton _, ?_⟩
    rintro a ha b hb rfl
    rw [List.mem_singleton.1 hb] at ha
    exact h.notMem_of_left hm hid ha
  · rw [h.accepted_iff]
    simp [or_and_right, exists_or]

/-- An errand that goes on stays what it was for. -/
theorem settle (hr : errands[i]? = some r) (hstage : r.stage = .sending) (hkey : r'.key = r.key) :
    Posting emissions (errands.set i r')
      (if r'.stage = .accepted then accepted ++ [r.key] else accepted) := by
  have hmap : (errands.set i r').map Errand.key = errands.map Errand.key := map_set_of_eq hr hkey
  have hstarted : ∀ n, started (errands.set i r') n = started errands n := fun n => by
    rw [started, hmap, started]
  have hmem := List.mem_of_getElem? hr
  have hnew : r.key ∉ accepted := by
    intro hold
    obtain ⟨x, hx, hxkey, hxstage⟩ := (h.accepted_iff _).1 hold
    rw [List.inj_on_of_nodup_map h.nodup hx hmem hxkey, hstage] at hxstage
    cases hxstage
  have hold : ∀ key, (∃ x ∈ errands.set i r', x.key = key ∧ x.stage = .accepted) ↔
      key ∈ accepted ∨ (r'.stage = .accepted ∧ key = r.key) := by
    intro key
    rw [h.accepted_iff]
    constructor
    · rintro ⟨x, hx, rfl, hxstage⟩
      rcases List.mem_or_eq_of_mem_set hx with hx | rfl
      · exact .inl ⟨x, hx, rfl, hxstage⟩
      · exact .inr ⟨hxstage, hkey⟩
    · rintro (⟨x, hx, rfl, hxstage⟩ | ⟨hr', rfl⟩)
      · refine ⟨x, mem_set_of_ne hr hx fun hxr => ?_, rfl, hxstage⟩
        rw [hxr, hstage] at hxstage
        cases hxstage
      · exact ⟨r', List.mem_iff_getElem?.2 ⟨i, getElem?_set_self_of_some hr⟩, hkey, hr'⟩
  refine ⟨fun n m hm => ?_, fun x hx => ?_, h.targets, ?_, ?_, fun key => ?_⟩
  · rw [hstarted]
    exact h.perm n m hm
  · rcases List.mem_or_eq_of_mem_set hx with hx | rfl
    · exact h.raised x hx
    · rw [show x.emission = r.emission from congrArg Prod.fst hkey]
      exact h.raised r hmem
  · rw [hmap]
    exact h.nodup
  · split
    · refine List.nodup_append.2 ⟨h.accepted_nodup, List.nodup_singleton _, ?_⟩
      rintro a ha b hb rfl
      exact hnew (List.mem_singleton.1 hb ▸ ha)
    · exact h.accepted_nodup
  · rw [hold]
    split
    · rename_i hr'
      rw [List.mem_append, List.mem_singleton]
      simp [hr']
    · rename_i hr'
      simp [hr']

end Posting

/-- The deliveries of a hub. -/
abbrev Posted (t : Traffic) : Prop := Posting t.emissions t.errands t.accepted

variable {t t' : Traffic}

/-- A step keeps the deliveries in agreement with the events. -/
theorem Posted.step (h : t.Posted) (hkept : t.Kept) (hstep : Step t t') : t'.Posted := by
  cases hstep with
  | emit d e => exact Posting.emit h d e (hkept.nodup d)
  | spawn hm hid => exact Posting.spawn h hm hid
  | accept hr hstage hhub => exact Posting.settle h hr hstage rfl
  | fail hr hstage hhub => exact Posting.settle h hr hstage rfl
  | panic hr hstage hsink => exact Posting.settle h hr hstage rfl
  | join | register | leave | remove | miss | close | tell | read | abandon => exact h

end Orchestrator.Traffic
