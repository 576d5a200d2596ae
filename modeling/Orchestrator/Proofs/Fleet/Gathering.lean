import Mathlib.Data.List.Induction
import Orchestrator.Proofs.Daemon.Creation
import Orchestrator.Proofs.Fleet.Crowd

/-!
# Callers that meet in one network

Callers that create containers side by side all end, each after so many turns (`Crowd.ended_of_turns`),
and then there is one network of the name. Between a look for the network and its creation others may
act, so it may be created more than once; then the last takes the place of the others, and whoever has
another cannot connect to it any more, or was connected to one that is gone
(`Crowd.networks_replaced`). All succeed and meet in the network just if never two callers are about to
create it.

Main statement: `Crowd.gathers_iff`.
-/
namespace Orchestrator

open Engine Fleet

variable {s₀ : Daemon} {m m' : Memory} {names names' : Nat} {g : Stage} {d : Deployment}

/-- A network is the only one of its name. -/
def Engine.Memory.SoleNetwork (m : Memory) (name : String) (net : Network) : Prop :=
  net.name = name ∧ net ∈ m.networks.values ∧ ∀ n ∈ m.networks.values, n.name = name → n = net

/-- Every call has succeeded, there is one network of the name, and all new containers are in it. -/
def Crowd.Gathers (s : Daemon) (c : Crowd) : Prop :=
  ∃ net, c.daemon.memory.SoleNetwork s.fleet.network net ∧
    (∀ p ∈ c.callers, ∃ container, p = .done (.ok container) ∧ container.networkId = some net.id) ∧
    ∀ made ∈ c.daemon.memory.containers, made ∉ s.memory.containers →
      made.container.networkId = some net.id

/-! ## Turns -/

namespace Fleet

/-- Has a creation found no network? -/
def Stage.lacks : Stage → Bool
  | .lacking => true
  | _ => false

variable {f : Fleet} {store : Store} {ending : Nat → String} {p : Creation}

theorem Stands.about (h : Stands f store ending d g p) : aboutToCreate p = g.lacks := by
  cases h with
  | preparing h => cases h <;> rfl
  | _ => rfl

/-- A creation that has ended has succeeded, or has found its network gone. -/
theorem Stands.done {r : Except (Failure ContainerError) Container} (h : Stands f store ending d g p)
    (hp : p = .done r) : (∃ j n c, g = .joined j n ∧ r = .ok c ∧
      c.networkId = some (Memory.numbered "net" j)) ∨
    ∃ j n, g = .refused j n ∧
      r = .error (.error (.engine (Memory.missing "network" (Memory.numbered "net" j)))) := by
  cases h with
  | joined h =>
    obtain rfl := (Program.done.inj hp).symm
    exact .inl ⟨_, _, _, rfl, rfl, h⟩
  | refused =>
    obtain rfl := (Program.done.inj hp).symm
    exact .inr ⟨_, _, rfl, rfl⟩
  | preparing h => cases h <;> cases hp
  | _ => cases hp

theorem Stage.Goes.creates {g' : Stage} (h : g.Goes f ending d m names g' m' names') :
    m'.failingCreates = m.failingCreates := by
  cases h <;> rfl

end Fleet

/-- What no request of a creation changes. -/
theorem Program.turn_kept {α : Type} (p : Program α) (s : Daemon) : (p.turn s).2.fleet = s.fleet ∧
    (p.turn s).2.store = s.store ∧ (p.turn s).2.ending = s.ending ∧
    (s.Steady → (p.turn s).2.Steady) := by
  cases p with
  | done a => exact ⟨rfl, rfl, rfl, id⟩
  | ask r next =>
    cases r with
    | engine c => exact ⟨rfl, rfl, rfl, fun hs => hs.called c⟩
    | _ => exact ⟨rfl, rfl, rfl, fun hs => ⟨hs.faultless, hs.numbered⟩⟩

namespace Crowd

variable {c : Crowd} {ds : List Deployment}

/-- Where a crowd is that began in a daemon, with its callers at their stages. -/
structure Along (s₀ : Daemon) (ds : List Deployment) (stage : Nat → Stage) (c : Crowd) : Prop where
  fleet : c.daemon.fleet = s₀.fleet
  store : c.daemon.store = s₀.store
  ending : c.daemon.ending = s₀.ending
  steady : c.daemon.Steady
  creates : c.daemon.memory.failingCreates = 0
  length : c.callers.length = ds.length
  stands : ∀ k d p, ds[k]? = some d → c.callers[k]? = some p →
    Stands s₀.fleet s₀.store s₀.ending d (stage k) p
  outside : ∀ k, ds.length ≤ k → stage k = .starting
  linked : Linked s₀ stage c.daemon.memory
  labelled : Labelled s₀ stage c.daemon.memory c.daemon.names
  stocked : Stocked s₀ stage c.daemon.memory

theorem along_start (hs₀ : s₀.Networkless) (ds : List Deployment) :
    (s₀.crowd ds).Along s₀ ds fun _ => .starting where
  fleet := rfl
  store := rfl
  ending := rfl
  steady := hs₀.steady
  creates := hs₀.creates
  length := List.length_map ..
  stands k d p hd hp := by
    rw [Daemon.crowd, List.getElem?_map, hd] at hp
    obtain rfl := Option.some.inj hp
    exact .starting
  outside _ _ := rfl
  linked := linked_start hs₀
  labelled := labelled_start hs₀
  stocked := stocked_start s₀

/-- Whoever has begun is one of the callers. -/
theorem Along.lt_length {stage : Nat → Stage} (h : c.Along s₀ ds stage) {k : Nat}
    (hk : stage k ≠ .starting) : k < ds.length :=
  Nat.lt_of_not_le fun hle => hk (h.outside k hle)

/-- What a turn changes of the number of networks and of those who are about to create one. -/
inductive Counts (s₀ : Daemon) (c c' : Crowd) : Prop
  | same (habout : c'.about = c.about)
    (hcreated : c'.daemon.memory.networksCreated = c.daemon.memory.networksCreated)
  | lack (hnone : c.daemon.memory.networksCreated = s₀.memory.networksCreated)
    (habout : c'.about = c.about + 1)
    (hcreated : c'.daemon.memory.networksCreated = c.daemon.memory.networksCreated)
  | establish (habout : c'.about + 1 = c.about)
    (hcreated : c'.daemon.memory.networksCreated = c.daemon.memory.networksCreated + 1)

/-- One element of a list is replaced, and with it its share of a count. -/
theorem countP_set_add {α : Type} {q : α → Bool} {l : List α} {i : Nat} {a b : α}
    (h : l[i]? = some a) : (l.set i b).countP q + (if q a then 1 else 0)
      = l.countP q + if q b then 1 else 0 := by
  obtain ⟨hi, hget⟩ := List.getElem?_eq_some_iff.1 h
  rw [List.countP_set hi, hget]
  have hpos : q a = true → 0 < l.countP q := fun hq =>
    List.countP_pos_iff.2 ⟨a, List.mem_of_getElem? h, hq⟩
  split
  · rename_i hq
    have := hpos hq
    omega
  · omega

/-- A caller that goes on counts as its stages do. -/
theorem Counts.of_goes {stage : Nat → Stage} {g' : Stage} {c' : Crowd} (h : Linked s₀ stage c.daemon.memory)
    (hgoes : g.Goes s₀.fleet s₀.ending d c.daemon.memory names g' c'.daemon.memory names')
    (habout : c'.about + (if g.lacks then 1 else 0) = c.about + if g'.lacks then 1 else 0) :
    Counts s₀ c c' := by
  generalize hm : c'.daemon.memory = m' at hgoes
  cases hgoes with
  | lack hfind => exact .lack (h.lack hfind) habout (by rw [hm])
  | establish => exact .establish habout (by rw [hm]; rfl)
  | rest => exact .same (Nat.add_right_cancel habout) (by rw [hm])
  | find | read | draw | refuse | look => exact .same habout (by rw [hm])
  | make | join => exact .same habout (by rw [hm]; rfl)

theorem Along.turn {stage : Nat → Stage} (h : c.Along s₀ ds stage) (hs₀ : s₀.Networkless) (i : Nat) :
    (∃ stage, (c.turn i).Along s₀ ds stage) ∧ Counts s₀ c (c.turn i) := by
  cases hp : c.callers[i]? with
  | none =>
    have hsame : c.turn i = c := by rw [Crowd.turn, hp]
    rw [hsame]
    exact ⟨⟨stage, h⟩, .same rfl rfl⟩
  | some p =>
    have hturn : c.turn i = ⟨(p.turn c.daemon).2, c.callers.set i (p.turn c.daemon).1⟩ := by
      rw [Crowd.turn, hp]
    rw [hturn]
    have hi : i < c.callers.length := (List.getElem?_eq_some_iff.1 hp).1
    obtain ⟨d, hd⟩ : ∃ d, ds[i]? = some d := ⟨_, List.getElem?_eq_getElem (h.length ▸ hi)⟩
    obtain ⟨hfleet, hstore, hending, hsteady⟩ := p.turn_kept c.daemon
    -- where the caller stands, in terms of the daemon as it is now
    have hstands := h.stands i d p hd hp
    have hgoes : ∃ g', Stands s₀.fleet s₀.store s₀.ending d g' (p.turn c.daemon).1 ∧
        (stage i).Goes s₀.fleet s₀.ending d c.daemon.memory c.daemon.names g'
          (p.turn c.daemon).2.memory (p.turn c.daemon).2.names := by
      have hnet := fun n hn => (h.linked.find (n := n) hn).2
      have hfree := h.labelled.free i
      rw [← h.fleet, ← h.store, ← h.ending] at *
      refine hstands.goes h.steady h.creates (h.store ▸ hs₀.secrets) (fun n hn => ⟨_, hnet n hn⟩)
        ⟨hfree, h.stocked.linked i⟩
    obtain ⟨g, hstands', hgoes⟩ := hgoes
    refine ⟨⟨Function.update stage i g, hfleet.trans h.fleet, hstore.trans h.store,
      hending.trans h.ending, hsteady h.steady, hgoes.creates.trans h.creates,
      (List.length_set ..).trans h.length, fun k d' p' hd' hp' => ?_, fun k hk => ?_,
      h.linked.step hgoes, h.labelled.step hs₀ hgoes, h.stocked.step hs₀ hgoes⟩, ?_⟩
    · by_cases hk : k = i
      · subst hk
        obtain rfl := Option.some.inj (hd.symm.trans hd')
        rw [List.getElem?_set_self hi] at hp'
        obtain rfl := Option.some.inj hp'
        rw [Function.update_self]
        exact hstands'
      · rw [List.getElem?_set_ne (Ne.symm hk)] at hp'
        rw [Function.update_of_ne hk]
        exact h.stands k d' p' hd' hp'
    · have hk' : k ≠ i := by
        have := h.length
        omega
      rw [Function.update_of_ne hk']
      exact h.outside k hk
    · refine .of_goes h.linked hgoes ?_
      rw [← hstands.about, ← hstands'.about]
      exact countP_set_add hp

/-! ## Runs -/

theorem after_append (c : Crowd) (turns turns' : List Nat) :
    c.after (turns ++ turns') = (c.after turns).after turns' := List.foldl_append ..

theorem Along.after {stage : Nat → Stage} (h : c.Along s₀ ds stage) (hs₀ : s₀.Networkless)
    (turns : List Nat) : ∃ stage, (c.after turns).Along s₀ ds stage := by
  induction turns generalizing c stage with
  | nil => exact ⟨stage, h⟩
  | cons i turns ih =>
    obtain ⟨⟨stage', h'⟩, -⟩ := h.turn hs₀ i
    exact ih h'

/-- The networks that were created, and those who are about to create one, never become fewer. -/
theorem Along.about_le {stage : Nat → Stage} (h : c.Along s₀ ds stage) (hs₀ : s₀.Networkless)
    (turns : List Nat) : c.about + c.daemon.memory.networksCreated
      ≤ (c.after turns).about + (c.after turns).daemon.memory.networksCreated := by
  induction turns generalizing c stage with
  | nil => exact Nat.le_refl _
  | cons i turns ih =>
    obtain ⟨⟨stage', h'⟩, hcounts⟩ := h.turn hs₀ i
    have hrest := ih h'
    cases hcounts <;> exact Nat.le_trans (by omega) hrest

/-- While never two are about to create the network, it is created once at most, and nobody is about to
create it after that. -/
theorem created_once (hs₀ : s₀.Networkless) (turns : List Nat)
    (halone : ∀ before, before <+: turns → ((s₀.crowd ds).after before).about ≤ 1) :
    ((s₀.crowd ds).after turns).daemon.memory.networksCreated = s₀.memory.networksCreated ∨
      ((s₀.crowd ds).after turns).daemon.memory.networksCreated = s₀.memory.networksCreated + 1 ∧
        ((s₀.crowd ds).after turns).about = 0 := by
  induction turns using List.reverseRecOn with
  | nil => exact .inl rfl
  | append_singleton turns i ih =>
    have hbefore := halone turns (List.prefix_append ..)
    have hrest := ih fun before h => halone before (h.trans (List.prefix_append ..))
    obtain ⟨stage, hstage⟩ := (along_start hs₀ ds).after hs₀ turns
    obtain ⟨-, hcounts⟩ := hstage.turn hs₀ i
    have hlast : (s₀.crowd ds).after (turns ++ [i]) = ((s₀.crowd ds).after turns).turn i :=
      after_append ..
    rw [hlast]
    cases hcounts <;> omega

/-- A caller with enough turns has ended. -/
theorem ended_of_turns {n k : Nat} {p : Creation} (hp : c.callers[k]? = some p) (hwithin : p.Within n)
    (turns : List Nat) (hturns : n ≤ turns.count k) :
    ∃ r, (c.after turns).callers[k]? = some (.done r) := by
  induction turns generalizing c n p with
  | nil =>
    obtain rfl : n = 0 := Nat.le_zero.1 hturns
    cases p with
    | done r => exact ⟨r, hp⟩
    | ask r next => cases hwithin
  | cons i turns ih =>
    by_cases hi : i = k
    · subst hi
      rw [List.count_cons_self] at hturns
      have hturn : (c.turn i).callers[i]? = some (p.turn c.daemon).1 := by
        rw [Crowd.turn, hp]
        exact List.getElem?_set_self (List.getElem?_eq_some_iff.1 hp).1
      refine ih hturn (n := n - 1) ?_ (by omega)
      exact (hwithin.mono (by omega : n ≤ n - 1 + 1)).turn
    · rw [List.count_cons_of_ne hi] at hturns
      have hturn : (c.turn i).callers[k]? = some p := by
        unfold Crowd.turn
        split
        · exact hp
        · rw [List.getElem?_set_ne hi, hp]
      exact ih hturn hwithin hturns

/-! ## Who is in the network in the end -/

/-- Where the network was created, it is the only one of its name. -/
theorem Along.sole {stage : Nat → Stage} (h : c.Along s₀ ds stage) (hs₀ : s₀.Networkless)
    (hcreated : s₀.memory.networksCreated < c.daemon.memory.networksCreated) :
    c.daemon.memory.SoleNetwork s₀.fleet.network
      (s₀.fleet.numberedNetwork c.daemon.memory.networksCreated) := by
  have hcurrent := h.linked.current
  rw [if_neg (Nat.ne_of_gt hcreated)] at hcurrent
  refine ⟨rfl, SortedMap.mem_values_of_find? hcurrent, fun n hn hname => ?_⟩
  obtain ⟨name, hfind⟩ := SortedMap.exists_find?_of_mem_values hn
  by_cases hsame : name = s₀.fleet.network
  · subst hsame
    exact Option.some.inj (hfind.symm.trans hcurrent)
  · rw [h.linked.others name hsame] at hfind
    exact absurd ((hs₀.named name n hfind).symm.trans hname) hsame

/-- A caller that has ended has a network. It has succeeded, and its container is in the network, or it
has failed, and another network has taken the place of its own. -/
inductive Ended (c : Crowd) (stage : Nat → Stage) (k : Nat) : Creation → Prop
  | joined {j n : Nat} {container : Container} (hstage : stage k = .joined j n)
    (hlink : container.networkId = some (Memory.numbered "net" j)) :
    Ended c stage k (.done (.ok container))
  | refused {j n : Nat} (hstage : stage k = .refused j n)
    (hgone : j < c.daemon.memory.networksCreated) : Ended c stage k
      (.done (.error (.error (.engine (Memory.missing "network" (Memory.numbered "net" j))))))

theorem Along.ended {stage : Nat → Stage} (h : c.Along s₀ ds stage) {k : Nat}
    {r : Except (Failure ContainerError) Container} (hk : c.callers[k]? = some (.done r)) :
    Ended c stage k (.done r) := by
  obtain ⟨d, hd⟩ : ∃ d, ds[k]? = some d :=
    ⟨_, List.getElem?_eq_getElem (h.length ▸ (List.getElem?_eq_some_iff.1 hk).1)⟩
  rcases (h.stands k d _ hd hk).done rfl with ⟨j, n, container, hstage, rfl, hlink⟩ | ⟨j, n, hstage, rfl⟩
  · exact .joined hstage hlink
  · exact .refused hstage (h.linked.gone k j (by rw [hstage]; rfl))

/-- Every caller that had enough turns has ended. -/
theorem ended_of_enough {turns : List Nat}
    (hturns : ∀ k d, ds[k]? = some d → d.secrets.entries.length + 6 ≤ turns.count k) {stage : Nat → Stage}
    (h : ((s₀.crowd ds).after turns).Along s₀ ds stage) {k : Nat} (hk : k < ds.length) :
    ∃ p, ((s₀.crowd ds).after turns).callers[k]? = some p ∧
      Ended ((s₀.crowd ds).after turns) stage k p := by
  have hd : ds[k]? = some ds[k] := List.getElem?_eq_getElem hk
  have hcaller : (s₀.crowd ds).callers[k]? = some (s₀.fleet.create ds[k]).run := by
    rw [Daemon.crowd, List.getElem?_map, hd]
    rfl
  obtain ⟨r, hr⟩ := ended_of_turns hcaller (within_create _ _) turns (hturns k _ hd)
  exact ⟨_, hr, h.ended hr⟩

/-- If all calls succeed and meet in one network, it was the only one that was created. -/
theorem Along.once_of_gathers {stage : Nat → Stage} (h : c.Along s₀ ds stage) (hs₀ : s₀.Networkless)
    (hcreated : s₀.memory.networksCreated < c.daemon.memory.networksCreated)
    (hended : ∀ k, k < ds.length → ∃ p, c.callers[k]? = some p ∧ Ended c stage k p)
    (hgathers : c.Gathers s₀) :
    c.daemon.memory.networksCreated = s₀.memory.networksCreated + 1 := by
  obtain ⟨net, ⟨hname, hnet, -⟩, hall, -⟩ := hgathers
  obtain rfl := (h.sole hs₀ hcreated).2.2 net hnet hname
  obtain ⟨k, hk⟩ := h.linked.makers _ (Nat.lt_succ_self _) hcreated
  have hlen : k < ds.length := h.lt_length fun hs => by
    rw [hs] at hk
    cases hk
  obtain ⟨p, hp, hend⟩ := hended k hlen
  obtain ⟨container, hok, hlink⟩ := hall p (List.mem_of_getElem? hp)
  cases hend with
  | joined hstage hlink' =>
    obtain rfl := Except.ok.inj (Program.done.inj hok)
    rw [hstage] at hk
    obtain rfl := Option.some.inj hk
    exact Memory.numbered_injective (Option.some.inj (hlink.symm.trans hlink'))
  | refused _ _ => cases Program.done.inj hok

/-- If the network was created once only, all calls have succeeded and met in it. -/
theorem Along.gathers_of_once {stage : Nat → Stage} (h : c.Along s₀ ds stage) (hs₀ : s₀.Networkless)
    (honce : c.daemon.memory.networksCreated = s₀.memory.networksCreated + 1)
    (hended : ∀ k, k < ds.length → ∃ p, c.callers[k]? = some p ∧ Ended c stage k p) :
    c.Gathers s₀ := by
  -- there is one network only that a caller can have
  have hjoined : ∀ k, k < ds.length → ∃ n container, c.callers[k]? = some (.done (.ok container)) ∧
      stage k = .joined c.daemon.memory.networksCreated n ∧
      container.networkId = some (Memory.numbered "net" c.daemon.memory.networksCreated) := by
    intro k hk
    obtain ⟨p, hp, hend⟩ := hended k hk
    cases hend with
    | @joined j n container hstage hlink =>
      have hhad := h.linked.had k j (by rw [hstage]; rfl)
      obtain rfl : j = c.daemon.memory.networksCreated := by omega
      exact ⟨n, container, hp, hstage, hlink⟩
    | @refused j n hstage hgone =>
      have hhad := h.linked.had k j (by rw [hstage]; rfl)
      omega
  refine ⟨_, h.sole hs₀ (by omega), fun p hp => ?_, fun made hmade hnew => ?_⟩
  · obtain ⟨k, hk⟩ := List.getElem?_of_mem hp
    obtain ⟨n, container, hp', -, hlink⟩ := hjoined k (h.length ▸ (List.getElem?_eq_some_iff.1 hk).1)
    obtain rfl := Option.some.inj (hk.symm.trans hp')
    exact ⟨container, rfl, hlink⟩
  · obtain ⟨k, n, hk, hid⟩ := (h.stocked.new made hmade).resolve_left hnew
    obtain ⟨c', hc', hid', hlink⟩ := h.stocked.linked k n hk
    obtain rfl := h.steady.numbered.eq_of_id_eq hmade hc' (hid.trans hid'.symm)
    have hlen : k < ds.length := h.lt_length fun hs => by
      rw [hs] at hk
      cases hk
    obtain ⟨n', -, -, hstage, -⟩ := hjoined k hlen
    rw [hlink, hstage]
    rfl

/-- Callers that create containers side by side, each with enough turns, all end, and one network of the
name is there. A call succeeds, or it fails as its network is gone. All succeed and meet in the network
just if never two of them are about to create it. -/
theorem gathers_iff (hs₀ : s₀.Networkless) (hds : ds ≠ []) {turns : List Nat}
    (hturns : ∀ k d, ds[k]? = some d → d.secrets.entries.length + 6 ≤ turns.count k) :
    (∃ net, ((s₀.crowd ds).after turns).daemon.memory.SoleNetwork s₀.fleet.network net ∧
      ∀ p ∈ ((s₀.crowd ds).after turns).callers,
        (∃ container id, p = .done (.ok container) ∧ container.networkId = some id) ∨
        ∃ id, id ≠ net.id ∧ p = .done (.error (.error (.engine (Memory.missing "network" id))))) ∧
    (((s₀.crowd ds).after turns).Gathers s₀ ↔
      ∀ before, before <+: turns → ((s₀.crowd ds).after before).about ≤ 1) := by
  obtain ⟨stage, h⟩ := (along_start hs₀ ds).after hs₀ turns
  have hended := fun k hk => ended_of_enough (k := k) hturns h hk
  have hcreated : s₀.memory.networksCreated
      < ((s₀.crowd ds).after turns).daemon.memory.networksCreated := by
    obtain ⟨p, -, hend⟩ := hended 0 (List.length_pos_iff.2 hds)
    have hhad : ∃ j, (stage 0).net? = some j := by
      cases hend with
      | joined hstage _ | refused hstage _ => exact ⟨_, by rw [hstage]; rfl⟩
    obtain ⟨j, hj⟩ := hhad
    have := h.linked.had 0 j hj
    omega
  have hcaller : ∀ p ∈ ((s₀.crowd ds).after turns).callers, ∃ k,
      Ended ((s₀.crowd ds).after turns) stage k p := by
    intro p hp
    obtain ⟨k, hk⟩ := List.getElem?_of_mem hp
    obtain ⟨p', hp', hend⟩ := hended k (h.length ▸ (List.getElem?_eq_some_iff.1 hk).1)
    obtain rfl := Option.some.inj (hk.symm.trans hp')
    exact ⟨k, hend⟩
  refine ⟨⟨_, h.sole hs₀ hcreated, fun p hp => ?_⟩, fun hgathers before hbefore => ?_, fun halone => ?_⟩
  · obtain ⟨k, hend⟩ := hcaller p hp
    cases hend with
    | joined _ hlink => exact .inl ⟨_, _, rfl, hlink⟩
    | refused _ hgone =>
      exact .inr ⟨_, fun heq => absurd (Memory.numbered_injective heq) (Nat.ne_of_lt hgone), rfl⟩
  · have honce := h.once_of_gathers hs₀ hcreated hended hgathers
    obtain ⟨more, rfl⟩ := hbefore
    obtain ⟨stage', h'⟩ := (along_start hs₀ ds).after hs₀ before
    have hle := h'.about_le hs₀ more
    have hlater := h'.linked.later
    have hnobody : ((s₀.crowd ds).after (before ++ more)).about = 0 := by
      refine List.countP_eq_zero.2 fun p hp => ?_
      obtain ⟨k, hend⟩ := hcaller p hp
      cases hend <;> exact Bool.false_ne_true
    rw [after_append] at honce hnobody
    omega
  · rcases created_once hs₀ turns halone with hnone | ⟨honce, -⟩
    · omega
    · exact h.gathers_of_once hs₀ honce hended

/-- Two containers of one deployment are to be created. -/
def twins : List Deployment := [.new "api" "nginx", .new "api" "nginx"]

theorem networkless_empty : ({} : Daemon).Networkless where
  steady := ⟨rfl, .nil, fun _ hc => by cases hc⟩
  absent := rfl
  named _ _ h := by cases h
  creates := rfl
  secrets := Store.secretsReadable_new
  fresh _ hc := by cases hc
  distinct d d' k k' _ _ hne := by
    let terms : Terms := ⟨⟨"", ""⟩, fun _ _ => .error .undecodable, ({} : Daemon).ending, 0⟩
    exact Terms.name_ne_name (k := terms) rfl hne d d'

theorem enough_twins {turns : List Nat} (h₀ : 6 ≤ turns.count 0) (h₁ : 6 ≤ turns.count 1) :
    ∀ k d, twins[k]? = some d → d.secrets.entries.length + 6 ≤ turns.count k := by
  intro k d hd
  match k with
  | 0 | 1 =>
    obtain rfl := Option.some.inj hd
    assumption
  | _ + 2 => cases hd

/-- One is created after the other. -/
def oneByOne : List Nat := List.replicate 6 0 ++ List.replicate 6 1

/-- So they meet in the network. -/
theorem gathers_one_by_one : ({} : Daemon).Networkless ∧ twins ≠ [] ∧
    (∀ k d, twins[k]? = some d → d.secrets.entries.length + 6 ≤ oneByOne.count k) ∧
    ((({} : Daemon).crowd twins).after oneByOne).Gathers {} := by
  have hmany : twins ≠ [] := List.cons_ne_nil _ _
  have henough : ∀ k d, twins[k]? = some d → d.secrets.entries.length + 6 ≤ oneByOne.count k :=
    enough_twins (by decide) (by decide)
  refine ⟨networkless_empty, hmany, henough,
    (gathers_iff networkless_empty hmany henough).2.2 fun before hbefore => ?_⟩
  have halone : ∀ n ≤ 12, ((({} : Daemon).crowd twins).after (oneByOne.take n)).about ≤ 1 := by
    decide +kernel
  rw [List.prefix_iff_eq_take.1 hbefore]
  exact halone _ hbefore.length_le

/-- What a creation that has failed reports. -/
def failure? : Creation → Option String
  | .done (.error (.error e)) => some e.message
  | _ => none

theorem Gathers.failure? (h : c.Gathers s₀) : ∀ p ∈ c.callers, Crowd.failure? p = none := by
  obtain ⟨net, -, hall, -⟩ := h
  intro p hp
  obtain ⟨container, rfl, -⟩ := hall p hp
  rfl

/-- They look for the network in turn, and each creates it. -/
def inTurn : Crowd := (({} : Daemon).crowd twins).after (List.replicate 6 [0, 1]).flatten

/-- One looks for the network, and when the other is done, creates it. -/
def overtaken : Crowd := (({} : Daemon).crowd twins).after ([0] ++ List.replicate 6 1 ++ List.replicate 5 0)

/-- A secret of the deployment is not well formed. -/
def illegible : Daemon where
  store := Store.new.put (secretCollection "api") "token" ⟨#[255]⟩

/-- Its container is created by a caller of its own. -/
def alone : Crowd := (illegible.crowd [{ Deployment.new "api" "nginx" with
  secrets := .ofList [("token", "@TOKEN")] }]).after (List.replicate 7 0)

/-- Callers may fail to meet in one network. If both find none and each creates it, then the one who does
so first cannot connect its container any more, or its container stays in a network that is gone. And a
caller fails whose deployment has a secret that cannot be read. -/
theorem networks_replaced :
    (({} : Daemon).Networkless ∧
      inTurn.callers.map Crowd.failure? = [some "not found: no such network: net1", none] ∧
      ¬ inTurn.Gathers {} ∧
      overtaken.callers.map Crowd.failure? = [none, none] ∧
      overtaken.daemon.memory.containers.map (fun made => made.container.networkId)
        = [some "net1", some "net2"] ∧
      ¬ overtaken.Gathers {}) ∧
    illegible.Steady ∧ illegible.memory.networks = ∅ ∧ illegible.memory.failingCreates = 0 ∧
      alone.callers.map Crowd.failure?
        = [some "state store error: deserialization error: the record is malformed"] ∧
      ¬ alone.Gathers illegible := by
  have hfails : ∀ {c : Crowd} {s : Daemon} {text : String} {rest : List (Option String)},
      c.callers.map Crowd.failure? = some text :: rest → ¬ c.Gathers s := by
    intro c s text rest hmap hgathers
    obtain ⟨p, hp, hfailure⟩ := List.mem_map.1 (hmap ▸ List.mem_cons_self)
    rw [hgathers.failure? p hp] at hfailure
    cases hfailure
  have hinTurn : inTurn.callers.map Crowd.failure?
      = [some "not found: no such network: net1", none] := by decide +kernel
  have hnetworks : overtaken.daemon.memory.containers.map (fun made => made.container.networkId)
      = [some "net1", some "net2"] := by decide +kernel
  have halone : alone.callers.map Crowd.failure?
      = [some "state store error: deserialization error: the record is malformed"] := by decide +kernel
  refine ⟨⟨networkless_empty, hinTurn, hfails hinTurn, by decide +kernel, hnetworks, ?_⟩,
    ⟨rfl, .nil, fun _ hc => by cases hc⟩, rfl, rfl, halone, hfails halone⟩
  rintro ⟨net, -, -, hall⟩
  have hsame : ∀ id ∈ [some "net1", some "net2"], id = some net.id := by
    intro id hid
    obtain ⟨made, hmade, rfl⟩ := List.mem_map.1 (hnetworks ▸ hid)
    exact hall made hmade List.not_mem_nil
  have hequal : some "net1" = some "net2" :=
    (hsame _ List.mem_cons_self).trans (hsame _ (List.mem_cons_of_mem _ List.mem_cons_self)).symm
  exact absurd hequal (by decide)

end Crowd

end Orchestrator
