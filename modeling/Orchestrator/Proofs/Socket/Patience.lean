import Orchestrator.Socket

/-!
# How long a client is waited for

A `Course` of a socket's loop handles wakes one after the other, each when it comes or later, and for as long
as its sends take; ticks that were missed are handled back to back. A client that is given up owes the answer
to a ping, and has not answered for more than the pong timeout, but the timeout counts from its last answer:
what it had since the ping was due is the full timeout only if the last tick was handled when it was due
(`given_up_after`). A client that is slow to read is given up on the ping it is just sent
(`given_up_at_once`).
-/
namespace Orchestrator.Socket

/-- The answer to a ping. -/
def Wake.IsPong : Wake → Prop
  | .frame f => f.isMalformed = false ∧ f.kind = .pong
  | _ => False

/-- A wake that is handled: from when to when, and whether what is sent reaches the client. -/
structure Turn where
  wake : Wake
  start : Nat
  finish : Nat
  goesThrough : Bool

/-- The socket after one turn. -/
def turn (s : Socket) (t : Turn) : Socket := s.handle t.start t.goesThrough t.wake

/-- The socket after some turns. -/
def after (s : Socket) (turns : List Turn) : Socket := turns.foldl turn s

/-- When the loop is free again. -/
def freeAt (opening : Nat) (turns : List Turn) : Nat := turns.foldl (fun _ t => t.finish) opening

theorem after_concat (s : Socket) (turns : List Turn) (t : Turn) :
    s.after (turns ++ [t]) = (s.after turns).turn t := by
  rw [after, List.foldl_append]
  rfl

theorem freeAt_concat (opening : Nat) (turns : List Turn) (t : Turn) :
    freeAt opening (turns ++ [t]) = t.finish := by
  rw [freeAt, List.foldl_append]
  rfl

/-- Turns of the loop of a socket. While the loop is open, it handles a wake as soon as it is free or later;
a tick it handles when it is due or later. -/
inductive Course (s : Socket) (opening : Nat) : List Turn → Prop
  | start : Course s opening []
  | turn {turns : List Turn} {t : Turn} (h : Course s opening turns)
    (hopen : (s.after turns).hasEnded = false) (hfree : freeAt opening turns ≤ t.start)
    (hspan : t.start ≤ t.finish) (hdue : t.wake = .tick → (s.after turns).nextTick ≤ t.start) :
    Course s opening (turns ++ [t])

/-- Is the client given up in a turn? -/
def GivesUp (s : Socket) (t : Turn) : Prop := t.wake = .tick ∧ s.isSilent t.start = true

variable {s : Socket} {opening now : Nat} {turns : List Turn} {t last : Turn}

/-! ## One turn -/

theorem handle_tick_of_silent {goesThrough : Bool} (h : s.isSilent now = true) :
    s.handle now goesThrough .tick =
      ({ s with nextTick := s.nextTick + pingInterval } : Socket).finish goesThrough := if_pos h

theorem handle_tick_of_not_silent {goesThrough : Bool} (h : s.isSilent now = false) :
    s.handle now goesThrough .tick =
      ({ s with nextTick := s.nextTick + pingInterval, awaitsPong := true } : Socket).send goesThrough
        .ping := if_neg (Bool.eq_false_iff.1 h)

/-- A turn after which the loop is open has sent a ping, seen an answer, or neither. -/
theorem turn_cases (hopen : (s.turn t).hasEnded = false) :
    (t.wake = .tick ∧ t.goesThrough = true ∧ (s.turn t).awaitsPong = true ∧
      (s.turn t).lastPong = s.lastPong ∧ (s.turn t).nextTick = s.nextTick + pingInterval) ∨
    (t.wake.IsPong ∧ (s.turn t).awaitsPong = false ∧ (s.turn t).lastPong = t.start ∧
      (s.turn t).nextTick = s.nextTick) ∨
    (t.wake ≠ .tick ∧ ¬ t.wake.IsPong ∧ (s.turn t).awaitsPong = s.awaitsPong ∧
      (s.turn t).lastPong = s.lastPong ∧ (s.turn t).nextTick = s.nextTick) := by
  obtain ⟨wake, start, finish, goesThrough⟩ := t
  unfold turn at hopen ⊢
  dsimp only at hopen ⊢
  cases wake with
  | tick =>
    cases hsilent : s.isSilent start with
    | true =>
      rw [handle_tick_of_silent hsilent] at hopen
      cases hopen
    | false =>
      rw [handle_tick_of_not_silent hsilent] at hopen ⊢
      cases goesThrough with
      | true => exact .inl ⟨rfl, rfl, rfl, rfl, rfl⟩
      | false => cases hopen
  | event e =>
    cases goesThrough with
    | true => exact .inr (.inr ⟨nofun, id, rfl, rfl, rfl⟩)
    | false => cases hopen
  | drained => cases hopen
  | hangUp => cases hopen
  | frame f =>
    unfold handle receive at hopen ⊢
    dsimp only at hopen ⊢
    cases hmalformed : f.isMalformed with
    | true =>
      rw [hmalformed] at hopen
      cases hopen
    | false =>
      rw [hmalformed] at hopen
      cases hkind : f.kind with
      | pong => exact .inr (.inl ⟨⟨hmalformed, hkind⟩, rfl, rfl, rfl⟩)
      | close =>
        rw [hkind] at hopen
        cases hopen
      | text | binary | ping | reserved =>
        refine .inr (.inr ⟨nofun, fun hpong => ?_, rfl, rfl, rfl⟩)
        cases hkind.symm.trans hpong.2

/-! ## Pings that are not answered -/

/-- Does the client owe the answer to a ping? The first that it did not answer was due no later than a tick
after it was last heard, and the next tick is due some whole number of ticks after it. -/
def Owes (s : Socket) (turns : List Turn) : Prop :=
  ∃ before ping rest k, turns = before ++ ping :: rest ∧ ping.wake = .tick ∧
    ping.goesThrough = true ∧ (∀ t ∈ rest, ¬ t.wake.IsPong) ∧
    (s.after before).nextTick ≤ (s.after turns).lastPong + pingInterval ∧
    (s.after turns).nextTick = (s.after before).nextTick + (k + 1) * pingInterval

/-- What the loop keeps up while it is open. -/
structure Patient (s : Socket) (opening : Nat) (turns : List Turn) : Prop where
  tick : (s.after turns).nextTick ≤ freeAt opening turns + pingInterval
  idle : (s.after turns).awaitsPong = false →
    (s.after turns).nextTick ≤ (s.after turns).lastPong + pingInterval
  owes : (s.after turns).awaitsPong = true → s.Owes turns

/-- A client that owes an answer owes it until it answers. -/
theorem Owes.turn (h : s.Owes turns) (hpong : ¬ t.wake.IsPong)
    (hlast : ((s.after turns).turn t).lastPong = (s.after turns).lastPong) {n : Nat}
    (hnext : ((s.after turns).turn t).nextTick = (s.after turns).nextTick + n * pingInterval) :
    s.Owes (turns ++ [t]) := by
  obtain ⟨before, ping, rest, k, rfl, hwake, hthrough, hrest, hdue, hticks⟩ := h
  refine ⟨before, ping, rest ++ [t], k + n, by simp, hwake, hthrough, fun x hx => ?_, ?_, ?_⟩
  · rcases List.mem_append.1 hx with hx | hx
    · exact hrest x hx
    · rw [List.mem_singleton.1 hx]
      exact hpong
  · rw [after_concat, hlast]
    exact hdue
  · rw [after_concat, hnext, hticks]
    simp only [pingInterval]
    omega

theorem Patient.turn (h : Patient s opening turns) (hfree : freeAt opening turns ≤ t.start)
    (hspan : t.start ≤ t.finish) (hdue : t.wake = .tick → (s.after turns).nextTick ≤ t.start)
    (hopen : (s.after (turns ++ [t])).hasEnded = false) : Patient s opening (turns ++ [t]) := by
  rw [after_concat] at hopen
  have htick := h.tick
  rcases turn_cases hopen with ⟨hwake, hthrough, hawaits, hlast, hnext⟩ |
    ⟨hpong, hawaits, hlast, hnext⟩ | ⟨hwake, hpong, hawaits, hlast, hnext⟩
  · refine ⟨?_, fun hidle => ?_, fun _ => ?_⟩
    · rw [after_concat, freeAt_concat, hnext]
      have := hdue hwake
      omega
    · rw [after_concat, hawaits] at hidle
      cases hidle
    · cases howes : (s.after turns).awaitsPong with
      | true =>
        refine (h.owes howes).turn (fun hpong => ?_) hlast (n := 1) (by omega)
        rw [hwake] at hpong
        exact hpong
      | false =>
        -- the ping of this tick is the first that is not answered
        refine ⟨turns, t, [], 0, rfl, hwake, hthrough, fun _ hx => (List.not_mem_nil hx).elim, ?_, ?_⟩
        · rw [after_concat, hlast]
          exact h.idle howes
        · rw [after_concat, hnext]
          omega
  · refine ⟨?_, fun _ => ?_, fun howes => ?_⟩
    · rw [after_concat, freeAt_concat, hnext]
      omega
    · rw [after_concat, hnext, hlast]
      omega
    · rw [after_concat, hawaits] at howes
      cases howes
  · refine ⟨?_, fun hidle => ?_, fun howes => ?_⟩
    · rw [after_concat, freeAt_concat, hnext]
      omega
    · rw [after_concat, hawaits] at hidle
      rw [after_concat, hnext, hlast]
      exact h.idle hidle
    · rw [after_concat, hawaits] at howes
      exact (h.owes howes).turn hpong hlast (n := 0) (by omega)

/-- The socket of a loop whose ticks count from `started`, and which goes on at `opening`. -/
def begun (deployment : String) (subscription started opening : Nat) : Socket :=
  { opened deployment subscription started with lastPong := opening }

variable {deployment : String} {subscription started : Nat}

theorem patient_start (h : started ≤ opening) :
    Patient (begun deployment subscription started opening) opening [] where
  tick := Nat.add_le_add_right h _
  idle _ := Nat.add_le_add_right h _
  owes howes := by cases howes

theorem Course.patient (hbegin : started ≤ opening)
    (h : Course (begun deployment subscription started opening) opening turns)
    (hopen : ((begun deployment subscription started opening).after turns).hasEnded = false) :
    Patient (begun deployment subscription started opening) opening turns := by
  induction h with
  | start => exact patient_start hbegin
  | turn _ hbefore hfree hspan hdue ih => exact (ih hbefore).turn hfree hspan hdue hopen

theorem Course.init {s : Socket} (h : Course s opening (turns ++ [last])) :
    Course s opening turns ∧ (s.after turns).hasEnded = false := by
  generalize hall : turns ++ [last] = all at h
  cases h with
  | start => simp at hall
  | turn h hopen =>
    obtain ⟨rfl, -⟩ := List.append_inj' hall rfl
    exact ⟨h, hopen⟩

/-- When was a client given up, counted from its last answer and from the ping that it owes? -/
theorem Patient.given_up (h : Patient s opening turns) (hgives : (s.after turns).GivesUp last) :
    ∃ before ping rest, turns = before ++ ping :: rest ∧ ping.wake = .tick ∧
      ping.goesThrough = true ∧ (∀ t ∈ rest, ¬ t.wake.IsPong) ∧
      (s.after turns).lastPong + pongTimeout < last.start ∧
      (s.after before).nextTick + pingInterval < last.start ∧
      (last.start = (s.after turns).nextTick →
        (s.after before).nextTick + pongTimeout ≤ last.start) := by
  obtain ⟨-, hsilent⟩ := hgives
  rw [isSilent, Bool.and_eq_true, decide_eq_true_eq] at hsilent
  obtain ⟨howes, hlong⟩ := hsilent
  obtain ⟨before, ping, rest, k, hturns, hwake, hthrough, hrest, hdue, hticks⟩ := h.owes howes
  refine ⟨before, ping, rest, hturns, hwake, hthrough, hrest, ?_⟩
  simp only [pingInterval, pongTimeout] at hlong hdue hticks ⊢
  refine ⟨by omega, by omega, fun hprompt => ?_⟩
  -- one tick after the ping the client is still waited for
  have hk : 1 ≤ k := by omega
  omega

/-- A client is given up for a ping that it does not answer, more than the pong timeout after it was last
heard to answer one and more than a tick after the ping was due. If the tick at which it is given up is
handled when it is due, that is the whole pong timeout after the ping was due. -/
theorem given_up_after (hbegin : started ≤ opening)
    (hcourse : Course (begun deployment subscription started opening) opening (turns ++ [last]))
    (hgives : ((begun deployment subscription started opening).after turns).GivesUp last) :
    let s := begun deployment subscription started opening
    ∃ before ping rest, turns = before ++ ping :: rest ∧ ping.wake = .tick ∧
      ping.goesThrough = true ∧ (∀ t ∈ rest, ¬ t.wake.IsPong) ∧
      (s.after turns).lastPong + pongTimeout < last.start ∧
      (s.after before).nextTick + pingInterval < last.start ∧
      (last.start = (s.after turns).nextTick →
        (s.after before).nextTick + pongTimeout ≤ last.start) := by
  obtain ⟨hcourse, hopen⟩ := hcourse.init
  exact (hcourse.patient hbegin hopen).given_up hgives


/-- A tick that is handled at once. -/
def tickAt (now : Nat) : Turn := ⟨.tick, now, now, true⟩

/-- A client that never answers is given up at the third tick, sixty seconds after the first ping. -/
theorem given_up_after_three_ticks :
    let s := begun "api" 0 0 0
    Course s 0 ([tickAt 30000, tickAt 60000] ++ [tickAt 90000]) ∧
      (s.after [tickAt 30000, tickAt 60000]).GivesUp (tickAt 90000) ∧
      ∃ before ping rest, [tickAt 30000, tickAt 60000] = before ++ ping :: rest ∧
        (s.after before).nextTick + pongTimeout ≤ 90000 := by
  intro s
  have hcourse : Course s 0 (([] ++ [tickAt 30000] ++ [tickAt 60000]) ++ [tickAt 90000]) := by
    refine .turn (.turn (.turn .start rfl ?_ ?_ fun _ => ?_) rfl ?_ ?_ fun _ => ?_) rfl ?_ ?_ fun _ => ?_
      <;> decide
  have hgives : (s.after [tickAt 30000, tickAt 60000]).GivesUp (tickAt 90000) := ⟨rfl, by decide⟩
  obtain ⟨before, ping, rest, hturns, -, -, -, -, -, hprompt⟩ :=
    given_up_after (Nat.le_refl 0) hcourse hgives
  exact ⟨hcourse, hgives, before, ping, rest, hturns, hprompt (by decide)⟩

/-- A client that is slow to read an event: the loop comes to its ticks late, sends a ping, and gives the
client up at the next tick, which is due already. -/
theorem given_up_at_once :
    let s := begun "api" 0 0 0
    let turns := [⟨.event ⟨⟨0⟩, .step, "pull-image"⟩, 10, 95000, true⟩, tickAt 95000]
    Course s 0 (turns ++ [tickAt 95000]) ∧ (s.after turns).GivesUp (tickAt 95000) ∧
      ((s.after turns).turn (tickAt 95000)).hasEnded = true ∧
      ∀ t ∈ turns, t.wake = .tick → ¬ t.finish + pongTimeout ≤ (tickAt 95000).start := by
  intro s turns
  have hcourse : Course s 0 (([] ++ [turns[0]] ++ [tickAt 95000]) ++ [tickAt 95000]) := by
    refine .turn (.turn (.turn .start rfl ?_ ?_ fun h => ?_) rfl ?_ ?_ fun _ => ?_) rfl ?_ ?_ fun _ => ?_
    all_goals first | cases h | decide
  refine ⟨hcourse, ⟨rfl, by decide⟩, rfl, fun t ht hwake => ?_⟩
  rcases List.mem_cons.1 ht with rfl | ht
  · cases hwake
  · rw [List.mem_singleton.1 ht]
    decide

end Orchestrator.Socket
