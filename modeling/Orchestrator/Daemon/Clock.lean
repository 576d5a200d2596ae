import Orchestrator.Daemon.Actors

/-!
Letting time go by. Time moves only while nobody can act: the daemon is settled, and then the clock
jumps to the next time at which somebody goes on by himself.
-/
namespace Orchestrator.Daemon

/-- The most steps between two moves of the clock, and the most moves of the clock in one go. -/
def patience : Nat := 1000000000000000000

/-- Lets the first actor who can act take a step, at most `fuel` times. -/
def settleWithin : Nat → Daemon → Daemon
  | 0, s => s
  | fuel + 1, s =>
    match s.actors.findSome? s.step? with
    | none => s
    | some s => settleWithin fuel s

/-- Lets everybody act until nobody can. -/
def settle (s : Daemon) : Daemon := settleWithin patience s

/-- The time at which the watcher goes on by itself. -/
def watchWake? (s : Daemon) : Option Nat :=
  match s.watch with
  | some ⟨.resting wake, _⟩ => some wake
  | _ => none

/-- The times at which somebody goes on by himself. -/
def wakes (s : Daemon) : List Nat :=
  s.workers.filterMap Worker.wake? ++ s.watchWake?.toList
    ++ (s.sockets.filter fun socket => !socket.hasEnded).map Socket.nextTick

/-- Lets time go by up to a limit, or up to the first moment at which a condition holds, with at
most `fuel` moves of the clock. -/
def advanceWithin (enough : Daemon → Bool) (limit : Nat) : Nat → Daemon → Daemon
  | 0, s => s
  | fuel + 1, s =>
    let s := s.settle
    if enough s then s
    else
      match s.wakes.min? with
      | none => { s with now := max s.now limit }
      | some wake =>
        if wake ≤ limit then advanceWithin enough limit fuel { s with now := max s.now wake }
        else { s with now := max s.now limit }

/-- Lets time go by up to a limit. -/
def advanceTo (s : Daemon) (limit : Nat) : Daemon :=
  (advanceWithin (fun _ => false) limit patience s).settle

/-- Lets time go by until a condition holds, or up to a limit. -/
def advanceUntil (s : Daemon) (enough : Daemon → Bool) (limit : Nat) : Daemon :=
  advanceWithin enough limit patience s

/-- Performs a program by itself: its requests are served at once, and others act only while it
pauses. -/
def perform {α : Type} : Program α → Daemon → α × Daemon
  | .done a, s => (a, s)
  | .ask (.pause milliseconds) next, s => perform (next ()) (s.advanceTo (s.now + milliseconds))
  | .ask request next, s =>
    let (answer, s) := s.serve request
    perform (next answer) s

end Orchestrator.Daemon
