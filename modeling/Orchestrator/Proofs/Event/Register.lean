import Mathlib.Data.List.Nodup
import Orchestrator.Proofs.Event.Traffic

/-!
# The subscriptions on the map

The map has exactly the subscriptions that were put on it and not taken off (`Register.mem_iff`), every
number is drawn once (`Register.drawn`), and a subscription is taken off by one call only
(`Register.once`). So it is after every step: `Kept.step`.
-/
namespace Orchestrator.Traffic

/-! ## Lists with one entry changed -/

section
variable {α β : Type} {l : List α} {a b x : α} {c i : Nat}

theorem getElem?_concat_eq_some (h : (l ++ [a])[i]? = some b) :
    l[i]? = some b ∨ (i = l.length ∧ b = a) := by
  rcases Nat.lt_trichotomy i l.length with hi | rfl | hi
  · exact .inl (List.getElem?_append_left hi ▸ h)
  · rw [List.getElem?_concat_length] at h
    exact .inr ⟨rfl, (Option.some.inj h).symm⟩
  · have hlong : (l ++ [a]).length ≤ i := by
      rw [List.length_append]
      exact hi
    rw [List.getElem?_eq_none hlong] at h
    cases h

theorem getElem?_concat_of_some (h : l[i]? = some b) : (l ++ [a])[i]? = some b := by
  rw [List.getElem?_append_left (List.getElem?_eq_some_iff.1 h).1, h]

theorem getElem?_set_eq_some (h : (l.set c a)[i]? = some b) :
    (i = c ∧ b = a) ∨ (i ≠ c ∧ l[i]? = some b) := by
  rw [List.getElem?_set] at h
  split at h
  · rename_i hci
    split at h
    · exact .inl ⟨hci.symm, (Option.some.inj h).symm⟩
    · cases h
  · rename_i hci
    exact .inr ⟨Ne.symm hci, h⟩

theorem getElem?_set_self_of_some (h : l[c]? = some x) : (l.set c a)[c]? = some a :=
  List.getElem?_set_self (List.getElem?_eq_some_iff.1 h).1

/-- Entries other than the one that changes are still there. -/
theorem mem_set_of_ne (h : l[c]? = some x) (hb : b ∈ l) (hne : b ≠ x) : b ∈ l.set c a := by
  obtain ⟨i, hi⟩ := List.mem_iff_getElem?.1 hb
  have hic : c ≠ i := fun hic => hne (Option.some.inj (hi.symm.trans (hic ▸ h)))
  exact List.mem_iff_getElem?.2 ⟨i, (List.getElem?_set_ne hic).trans hi⟩

/-- What does not see the change of an entry sees the same list. -/
theorem map_set_of_eq {f : α → β} (h : l[c]? = some x) (hf : f a = f x) :
    (l.set c a).map f = l.map f := by
  obtain ⟨hc, rfl⟩ := List.getElem?_eq_some_iff.1 h
  rw [List.map_set, hf, ← List.getElem_map f (h := by simpa using hc), List.set_getElem_self]

end

/-! ## The register -/

/-- Was the subscription put on the map? -/
def Registered (joins : List Join) (deployment : String) (id : Nat) : Prop :=
  ⟨deployment, id, true⟩ ∈ joins

/-- Was it taken off? -/
def Removed (leaves : List Leave) (deployment : String) (id : Nat) : Prop :=
  ∃ l ∈ leaves, l.deployment = deployment ∧ l.id = id ∧ l.stage.hasRemoved = true

/-- The map agrees with the calls. -/
structure Register (next : Nat) (subscribers : String → List Nat) (joins : List Join)
    (leaves : List Leave) : Prop where
  drawn : joins.map Join.id = List.range next
  nodup : ∀ d, (subscribers d).Nodup
  mem_iff : ∀ d id, id ∈ subscribers d ↔ Registered joins d id ∧ ¬ Removed leaves d id
  registered : ∀ d id, Removed leaves d id → Registered joins d id
  once : ∀ (c c' : Nat) (l l' : Leave), leaves[c]? = some l → leaves[c']? = some l' →
    l.stage.hasRemoved = true → l'.stage.hasRemoved = true → l.id = l'.id → c = c'

variable {next : Nat} {subscribers subscribers' : String → List Nat} {joins : List Join}
  {leaves : List Leave} {d d' : String} {id c : Nat} {j j' : Join} {l l' : Leave}

theorem registered_set (hj : joins[c]? = some j) (hnew : j.isRegistered = false) :
    Registered (joins.set c { j with isRegistered := true }) d id ↔
      Registered joins d id ∨ (d = j.deployment ∧ id = j.id) := by
  constructor
  · intro hr
    rcases List.mem_or_eq_of_mem_set hr with hold | heq
    · exact .inl hold
    · exact .inr ⟨congrArg Join.deployment heq, congrArg Join.id heq⟩
  · rintro (hr | ⟨rfl, rfl⟩)
    · refine mem_set_of_ne hj hr fun heq => ?_
      rw [← heq] at hnew
      cases hnew
    · exact List.mem_iff_getElem?.2 ⟨c, getElem?_set_self_of_some hj⟩

/-- A call that has removed nothing counts for nothing. -/
theorem removed_concat (hl : l.stage.hasRemoved = false) :
    Removed (leaves ++ [l]) d id ↔ Removed leaves d id := by
  simp [Removed, hl, or_and_right, exists_or]

/-- What a call has removed stays removed when it goes on. -/
theorem removed_set (hl : leaves[c]? = some l) (hd : l'.deployment = l.deployment) (hid : l'.id = l.id)
    (hstage : l.stage.hasRemoved = true → l'.stage.hasRemoved = true) :
    Removed (leaves.set c l') d id ↔
      Removed leaves d id ∨ (d = l.deployment ∧ id = l.id ∧ l'.stage.hasRemoved = true) := by
  constructor
  · rintro ⟨k, hk, rfl, rfl, hs⟩
    rcases List.mem_or_eq_of_mem_set hk with hold | rfl
    · exact .inl ⟨k, hold, rfl, rfl, hs⟩
    · exact .inr ⟨hd, hid, hs⟩
  · rintro (⟨k, hk, rfl, rfl, hs⟩ | ⟨rfl, rfl, hs⟩)
    · by_cases hkl : k = l
      · subst hkl
        exact ⟨l', List.mem_iff_getElem?.2 ⟨c, getElem?_set_self_of_some hl⟩, hd, hid, hstage hs⟩
      · exact ⟨k, mem_set_of_ne hl hk hkl, rfl, rfl, hs⟩
    · exact ⟨l', List.mem_iff_getElem?.2 ⟨c, getElem?_set_self_of_some hl⟩, hd, hid, hs⟩

theorem Removed.set (h : Removed leaves d id) (hl : leaves[c]? = some l)
    (hd : l'.deployment = l.deployment) (hid : l'.id = l.id)
    (hstage : l.stage.hasRemoved = true → l'.stage.hasRemoved = true) : Removed (leaves.set c l') d id :=
  (removed_set hl hd hid hstage).2 (.inl h)

namespace Register

theorem start : Register 0 (fun _ => []) [] [] where
  drawn := rfl
  nodup _ := List.nodup_nil
  mem_iff d id := by simp [Registered]
  registered d id h := by
    obtain ⟨l, hl, -⟩ := h
    cases hl
  once c c' l l' hl := by cases hl

variable (h : Register next subscribers joins leaves)

include h

theorem eq_of_id (hj : j ∈ joins) (hj' : j' ∈ joins) (hid : j.id = j'.id) : j = j' :=
  List.inj_on_of_nodup_map (h.drawn ▸ List.nodup_range) hj hj' hid

theorem id_lt (hj : j ∈ joins) : j.id < next := by
  have hmem : j.id ∈ joins.map Join.id := List.mem_map_of_mem hj
  rw [h.drawn] at hmem
  exact List.mem_range.1 hmem

/-- A subscription is on the map of one deployment at most. -/
theorem deployment_eq (hd : Registered joins d id) (hd' : Registered joins d' id) : d = d' :=
  congrArg Join.deployment (h.eq_of_id hd hd' rfl)

theorem join (d : String) : Register (next + 1) subscribers (joins ++ [⟨d, next, false⟩]) leaves := by
  have hregistered : ∀ d' id, Registered (joins ++ [⟨d, next, false⟩]) d' id ↔ Registered joins d' id := by
    intro d' id
    simp [Registered]
  refine ⟨?_, h.nodup, fun d' id => ?_, fun d' id hr => ?_, h.once⟩
  · rw [List.map_append, h.drawn, List.range_succ]
    rfl
  · rw [hregistered, h.mem_iff]
  · exact (hregistered d' id).2 (h.registered d' id hr)

/-- A call that was made for a subscription that is not on the map yet. -/
theorem not_registered (hj : j ∈ joins) (hnew : j.isRegistered = false) (d : String) :
    ¬ Registered joins d j.id := by
  intro hr
  have := h.eq_of_id hj hr rfl
  rw [this] at hnew
  cases hnew

theorem register (hj : joins[c]? = some j) (hnew : j.isRegistered = false)
    (hsubscribers : ∀ d, subscribers' d =
      if d = j.deployment then subscribers j.deployment ++ [j.id] else subscribers d) :
    Register next subscribers' (joins.set c { j with isRegistered := true }) leaves := by
  have hmem := List.mem_of_getElem? hj
  have habsent : ∀ d, j.id ∉ subscribers d := fun d hd =>
    h.not_registered hmem hnew d ((h.mem_iff d j.id).1 hd).1
  refine ⟨?_, fun d => ?_, fun d id => ?_, fun d id hr => ?_, h.once⟩
  · exact (map_set_of_eq (a := { j with isRegistered := true }) hj rfl).trans h.drawn
  · rw [hsubscribers]
    split
    · refine List.nodup_append.2 ⟨h.nodup _, List.nodup_singleton _, ?_⟩
      rintro a ha b hb rfl
      exact habsent _ (List.mem_singleton.1 hb ▸ ha)
    · exact h.nodup d
  · rw [registered_set hj hnew, hsubscribers]
    have hremoved : ¬ Removed leaves j.deployment j.id := fun hr =>
      h.not_registered hmem hnew _ (h.registered _ _ hr)
    by_cases hd : d = j.deployment
    · subst hd
      rw [if_pos rfl, List.mem_append, List.mem_singleton, h.mem_iff]
      constructor
      · rintro (⟨hr, hnot⟩ | rfl)
        · exact ⟨.inl hr, hnot⟩
        · exact ⟨.inr ⟨rfl, rfl⟩, hremoved⟩
      · rintro ⟨hr | ⟨-, rfl⟩, hnot⟩
        · exact .inl ⟨hr, hnot⟩
        · exact .inr rfl
    · rw [if_neg hd, h.mem_iff]
      simp [hd]
  · exact (registered_set hj hnew).2 (.inl (h.registered d id hr))

theorem leave (hl : l.stage.hasRemoved = false) : Register next subscribers joins (leaves ++ [l]) := by
  have hremoved : ∀ d id, Removed (leaves ++ [l]) d id ↔ Removed leaves d id := fun d id =>
    removed_concat hl
  refine ⟨h.drawn, h.nodup, fun d id => ?_, fun d id hr => ?_, fun c c' k k' hk hk' hs hs' => ?_⟩
  · rw [hremoved, h.mem_iff]
  · exact h.registered d id ((hremoved d id).1 hr)
  · rcases getElem?_concat_eq_some hk with hk | ⟨-, rfl⟩
    · rcases getElem?_concat_eq_some hk' with hk' | ⟨-, rfl⟩
      · exact h.once c c' k k' hk hk' hs hs'
      · rw [hl] at hs'
        cases hs'
    · rw [hl] at hs
      cases hs

/-- A call that goes on without removing anything changes nothing. -/
theorem proceed (hl : leaves[c]? = some l) (hd : l'.deployment = l.deployment) (hid : l'.id = l.id)
    (hstage : l'.stage.hasRemoved = l.stage.hasRemoved) :
    Register next subscribers joins (leaves.set c l') := by
  have hremoved : ∀ d id, Removed (leaves.set c l') d id ↔ Removed leaves d id := by
    intro d id
    rw [removed_set hl hd hid fun hs => hstage ▸ hs]
    refine or_iff_left_of_imp ?_
    rintro ⟨rfl, rfl, hs⟩
    exact ⟨l, List.mem_of_getElem? hl, rfl, rfl, hstage ▸ hs⟩
  have hold : ∀ {i : Nat} {k : Leave}, (leaves.set c l')[i]? = some k → k.stage.hasRemoved = true →
      ∃ k', leaves[i]? = some k' ∧ k'.stage.hasRemoved = true ∧ k'.id = k.id := by
    intro i k hk hs
    rcases getElem?_set_eq_some hk with ⟨rfl, rfl⟩ | ⟨-, hk⟩
    · exact ⟨l, hl, hstage ▸ hs, hid.symm⟩
    · exact ⟨k, hk, hs, rfl⟩
  refine ⟨h.drawn, h.nodup, fun d id => ?_, fun d id hr => ?_, fun i i' k k' hk hk' hs hs' hkk' => ?_⟩
  · rw [hremoved, h.mem_iff]
  · exact h.registered d id ((hremoved d id).1 hr)
  · obtain ⟨k₀, hk₀, hs₀, hid₀⟩ := hold hk hs
    obtain ⟨k₁, hk₁, hs₁, hid₁⟩ := hold hk' hs'
    exact h.once i i' k₀ k₁ hk₀ hk₁ hs₀ hs₁ (hid₀.trans (hkk'.trans hid₁.symm))

/-- A subscription on the map was not removed by any call. -/
theorem not_removed (hmem : id ∈ subscribers d) (hl : l ∈ leaves) (hid : l.id = id) :
    l.stage.hasRemoved = false := by
  rw [Bool.eq_false_iff]
  intro hs
  obtain ⟨hregistered, hnot⟩ := (h.mem_iff d id).1 hmem
  have hremoved : Removed leaves l.deployment id := ⟨l, hl, rfl, hid, hs⟩
  rw [h.deployment_eq (h.registered _ _ hremoved) hregistered] at hremoved
  exact hnot hremoved

theorem remove (hl : leaves[c]? = some l) (hmem : l.id ∈ subscribers l.deployment)
    (hsubscribers : ∀ d, subscribers' d =
      if d = l.deployment then (subscribers l.deployment).erase l.id else subscribers d) :
    Register next subscribers' joins (leaves.set c { l with stage := .removed }) := by
  have hremoved : ∀ d id, Removed (leaves.set c { l with stage := .removed }) d id ↔
      Removed leaves d id ∨ (d = l.deployment ∧ id = l.id) := by
    intro d id
    have hset := @removed_set leaves d id c l { l with stage := .removed } hl rfl rfl fun _ => rfl
    rw [hset]
    simp [Leave.Stage.hasRemoved]
  have hregistered := ((h.mem_iff _ _).1 hmem).1
  refine ⟨h.drawn, fun d => ?_, fun d id => ?_, fun d id hr => ?_, fun i i' k k' hk hk' hs hs' hkk' => ?_⟩
  · rw [hsubscribers]
    split
    · exact (h.nodup _).erase _
    · exact h.nodup d
  · rw [hsubscribers, hremoved]
    by_cases hd : d = l.deployment
    · subst hd
      rw [if_pos rfl, (h.nodup _).mem_erase_iff, h.mem_iff]
      simp only [true_and, not_or]
      exact ⟨fun ⟨hne, hr, hnot⟩ => ⟨hr, hnot, hne⟩, fun ⟨hr, hnot, hne⟩ => ⟨hne, hr, hnot⟩⟩
    · rw [if_neg hd, h.mem_iff]
      simp [hd]
  · rcases (hremoved d id).1 hr with hold | ⟨rfl, rfl⟩
    · exact h.registered d id hold
    · exact hregistered
  · -- no other call has removed it
    rcases getElem?_set_eq_some hk with ⟨hi, hkl⟩ | ⟨-, hold⟩ <;>
      rcases getElem?_set_eq_some hk' with ⟨hi', hkl'⟩ | ⟨-, hold'⟩
    · rw [hi, hi']
    · have hid : k'.id = l.id := by rw [← hkk', hkl]
      rw [h.not_removed hmem (List.mem_of_getElem? hold') hid] at hs'
      cases hs'
    · have hid : k.id = l.id := by rw [hkk', hkl']
      rw [h.not_removed hmem (List.mem_of_getElem? hold) hid] at hs
      cases hs
    · exact h.once i i' k k' hold hold' hs hs' hkk'

end Register

/-- The register of a hub with its calls. -/
abbrev Kept (t : Traffic) : Prop := Register t.hub.next t.hub.subscribers t.joins t.leaves

theorem Register.of_sameMap {hub hub' : Hub} (h : Register hub.next hub.subscribers joins leaves)
    (hmap : hub.SameMap hub') : Register hub'.next hub'.subscribers joins leaves := by
  rw [hmap.1, hmap.subscribers_eq]
  exact h

variable {t t' : Traffic}

/-- A step keeps the register. -/
theorem Kept.step (h : t.Kept) (hstep : Step t t') : t'.Kept := by
  cases hstep with
  | join d guest hguest => exact Register.join h d
  | register hj hnew =>
    exact Register.register h hj hnew fun d => Hub.subscribers_setSubscribers _ _ d _
  | leave d id => exact Register.leave h rfl
  | remove hl hstage hid =>
    exact Register.remove h hl hid fun d => Hub.subscribers_setSubscribers _ _ d _
  | miss hl hstage hid => exact Register.proceed h hl rfl rfl (by rw [hstage]; rfl)
  | @close c l hl hstage =>
    have hclosing : Register t.hub.next t.hub.subscribers t.joins
        (t.leaves.set c { l with stage := .closing }) :=
      Register.proceed h hl rfl rfl (by rw [hstage]; rfl)
    exact hclosing.of_sameMap (t.hub.sameMap_updateFollower _ _)
  | tell hl hstage => exact Register.proceed h hl rfl rfl (by rw [hstage]; rfl)
  | emit d e => exact h
  | spawn hm hid => exact h
  | accept hr hstage hhub => exact Register.of_sameMap h hhub.sameMap
  | fail hr hstage hhub => exact (Register.leave h rfl).of_sameMap hhub.sameMap
  | panic hr hstage hsink => exact h
  | read hf n => exact h
  | abandon sink => exact Register.of_sameMap h (t.hub.sameMap_updateFollower _ _)

/-- A step leaves no deployment on the map without subscriptions. -/
theorem tidy_step (h : t.hub.IsTidy) (hstep : Step t t') : t'.hub.IsTidy := by
  cases hstep with
  | register hj hnew => exact h.setSubscribers _ _
  | remove hl hstage hid => exact h.setSubscribers _ _
  | close hl hstage => exact h.of_sameMap (t.hub.sameMap_updateFollower _ _)
  | accept hr hstage hhub => exact h.of_sameMap hhub.sameMap
  | fail hr hstage hhub => exact h.of_sameMap hhub.sameMap
  | abandon sink => exact h.of_sameMap (t.hub.sameMap_updateFollower _ _)
  | join | leave | miss | tell | emit | spawn | panic | read => exact h

end Orchestrator.Traffic
