import Orchestrator.Proofs.Event.Supply

/-!
# Calls of the hub that nobody disturbs

A call whose steps are taken one after the other, with nobody acting between them, does what the hub does in
one operation: a follower that comes (`undisturbed_subscribe`) or is removed (`undisturbed_unsubscribe`), an
event that is raised (`undisturbed_emit`) and a delivery that is carried out (`undisturbed_carryOut`). None of
these calls reads a follower or takes its reader away, so they are steps beside each follower there is.
-/
namespace Orchestrator.Traffic

variable {t : Traffic}

theorem set_concat {α : Type} (l : List α) (a b : α) : (l ++ [a]).set l.length b = l ++ [b] := by
  simp

theorem undisturbed_subscribe (t : Traffic) (d : String) {guest : Guest} {f : Follower}
    (hguest : guest.follower? = some f) :
    ∃ t', (∀ k < t.hub.next, Besides k t t') ∧ t'.hub = (t.hub.subscribe d f).2 ∧
      t'.joins = t.joins ++ [⟨d, (t.hub.subscribe d f).1, true⟩] := by
  have hjoin : ∀ k < t.hub.next, Beside k t (t.join d guest) := fun k hk =>
    beside_join (fun _ => hk) fun id hid => by
      rw [hid] at hguest
      cases hguest
  have hregister : ∀ k, Beside k (t.join d guest)
      ((t.join d guest).register t.joins.length ⟨d, t.hub.next, false⟩) :=
    fun k => ⟨.register List.getElem?_concat_length rfl, rfl, fun h => h, fun _ h => h⟩
  refine ⟨_, fun k hk => .tail (.tail .refl (hjoin k hk)) (hregister k), ?_, set_concat ..⟩
  show Hub.setSubscribers { t.hub with next := _, followers := _ } _ _ = _
  rw [hguest]
  rfl

/-- A call that was made last ends as the hub does it, and leaves each follower to its reader. -/
theorem steps_leave {leaves : List Leave} {d : String} {id : Nat} {cause : Option Nat}
    (hleaves : t.leaves = leaves ++ [⟨d, id, cause, .asked⟩]) (hsink : t.sink id = id) :
    ∃ t', (∀ k, Besides k t t') ∧ t'.hub = (t.hub.unsubscribe d id).2 ∧
      t'.leaves = leaves ++ [⟨d, id, cause, .told (t.hub.unsubscribe d id).1⟩] := by
  have hcall : t.leaves[leaves.length]? = some ⟨d, id, cause, .asked⟩ := by
    rw [hleaves, List.getElem?_concat_length]
  have hset : ∀ l, t.leaves.set leaves.length l = leaves ++ [l] := fun l => by
    rw [hleaves, set_concat]
  unfold Hub.unsubscribe
  by_cases hid : id ∈ t.hub.subscribers d
  · rw [if_pos hid]
    let removed := t.remove leaves.length ⟨d, id, cause, .asked⟩
    have hremoved : removed.leaves = leaves ++ [⟨d, id, cause, .removed⟩] := hset _
    let closing := removed.close leaves.length ⟨d, id, cause, .removed⟩
    have hclosing : closing.leaves = leaves ++ [⟨d, id, cause, .closing⟩] := by
      show removed.leaves.set _ _ = _
      rw [hremoved, set_concat]
    have hremove : ∀ k, Beside k t removed := fun k => ⟨.remove hcall rfl hid, rfl, fun h => h, fun _ h => h⟩
    have hclose : ∀ k, Beside k removed closing :=
      fun k => beside_close (by rw [hremoved, List.getElem?_concat_length]) rfl
    have htell : ∀ k, Beside k closing (closing.tell leaves.length ⟨d, id, cause, .closing⟩) :=
      fun k => ⟨.tell (by rw [hclosing, List.getElem?_concat_length]) rfl, rfl, fun h => h, fun _ h => h⟩
    refine ⟨_, fun k => .tail (.tail (.tail .refl (hremove k)) (hclose k)) (htell k), ?_, ?_⟩
    · show Hub.updateFollower _ (t.sink id) _ = _
      rw [hsink]
      rfl
    · show closing.leaves.set _ _ = _
      rw [hclosing, set_concat]
  · rw [if_neg hid]
    exact ⟨_, fun k => .tail .refl ⟨.miss hcall rfl hid, rfl, fun h => h, fun _ h => h⟩, rfl, hset _⟩

theorem undisturbed_unsubscribe (t : Traffic) (d : String) {id : Nat} (hsink : t.sink id = id) :
    ∃ t', (∀ k, Besides k t t') ∧ t'.hub = (t.hub.unsubscribe d id).2 ∧
      t'.leaves = t.leaves ++ [⟨d, id, none, .told (t.hub.unsubscribe d id).1⟩] := by
  obtain ⟨t', hsteps, hhub, hleaves⟩ := steps_leave (t := t.leave d id) rfl hsink
  exact ⟨t', fun k => .head ⟨.leave d id, rfl, fun h => h, fun _ h => h⟩ (hsteps k), hhub, hleaves⟩

/-- The deliveries of the event raised last are started one after the other. -/
theorem steps_spawn {emissions : List Emission} {m : Emission}
    (hemissions : t.emissions = emissions ++ [m]) :
    ∃ t', (∀ k, Besides k t t') ∧ t'.hub = t.hub ∧ t'.emissions = emissions ++ [{ m with left := [] }] ∧
      t'.errands = t.errands ++
        m.left.map fun id => ⟨emissions.length, ⟨m.deployment, id, m.event⟩, .sending⟩ := by
  generalize hids : m.left = ids
  induction ids generalizing t m with
  | nil =>
    obtain ⟨_, _, _, _⟩ := m
    cases hids
    exact ⟨t, fun _ => .refl, rfl, hemissions, (List.append_nil _).symm⟩
  | cons id ids ih =>
    have hm : t.emissions[emissions.length]? = some m := by
      rw [hemissions, List.getElem?_concat_length]
    have hleft : m.left.erase id = ids := by rw [hids, List.erase_cons_head]
    have hspawned : (t.spawn emissions.length m id).emissions = emissions ++ [{ m with left := ids }] := by
      show t.emissions.set _ _ = _
      rw [hemissions, set_concat, hleft]
    have hspawn : ∀ k, Beside k t (t.spawn emissions.length m id) :=
      fun k => ⟨.spawn hm (hids ▸ List.mem_cons_self), rfl, fun h => h, fun _ h => h⟩
    obtain ⟨t', hsteps, hhub, hend, herrands⟩ := ih hspawned rfl
    refine ⟨t', fun k => .head (hspawn k) (hsteps k), hhub, hend, herrands.trans ?_⟩
    exact List.append_assoc _ _ _

theorem undisturbed_emit (t : Traffic) (d : String) (e : Event) :
    ∃ t' m errands, (∀ k, Besides k t t') ∧ t'.hub = t.hub ∧ t'.emissions = t.emissions ++ [m] ∧
      m.answer? = some (t.hub.emit d e).1 ∧ t'.errands = t.errands ++ errands ∧
      (t.hub.emit d e).2.deliveries = t.hub.deliveries ++ errands.map Errand.delivery ∧
      ∀ r ∈ errands, r.stage = .sending := by
  obtain ⟨t', hsteps, hhub, hemissions, herrands⟩ := steps_spawn (t := t.emit d e) rfl
  have hemit : ∀ k, Beside k t (t.emit d e) := fun k => ⟨.emit d e, rfl, fun h => h, fun _ h => h⟩
  refine ⟨t', _, _, fun k => .head (hemit k) (hsteps k), hhub, hemissions, rfl, herrands, ?_, fun r hr => ?_⟩
  · rw [List.map_map]
    rfl
  · obtain ⟨id, -, rfl⟩ := List.mem_map.1 hr
    rfl

theorem undisturbed_carryOut {i : Nat} {r : Errand} {f : Follower} (hr : t.errands[i]? = some r)
    (hstage : r.stage = .sending) (hsink : t.sink r.delivery.subscription = r.delivery.subscription)
    (hf : t.hub.followers.find? r.delivery.subscription = some f) :
    ∃ t', (∀ k, Besides k t t') ∧ t'.hub = t.hub.carryOut r.delivery := by
  have hhub : t.hub.Answers (t.sink r.delivery.subscription) r.delivery.event
      (f.send r.delivery.event).1 { t.hub with
        followers := t.hub.followers.insert r.delivery.subscription (f.send r.delivery.event).2 } := by
    rw [hsink]
    exact .follower hf
  rw [Hub.carryOut, hf]
  dsimp only
  cases hanswer : (f.send r.delivery.event).1 with
  | ok =>
    rw [hanswer] at hhub
    exact ⟨_, fun k => .tail .refl ⟨.accept hr hstage hhub, rfl, fun h => h.answers hhub, fun _ h => h⟩, rfl⟩
  | error error =>
    rw [hanswer] at hhub
    obtain ⟨t', hsteps, hend, -⟩ := steps_leave (t := t.fail i r _) rfl hsink
    have hfail : ∀ k, Beside k t (t.fail i r _) :=
      fun k => ⟨.fail hr hstage hhub, rfl, fun h => h.answers hhub, fun _ h => h⟩
    exact ⟨t', fun k => .head (hfail k) (hsteps k), hend⟩

end Orchestrator.Traffic
