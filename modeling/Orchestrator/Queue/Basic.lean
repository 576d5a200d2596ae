import Orchestrator.Job.Basic
import Orchestrator.Job.Error
import Orchestrator.Queue.InFlight

/-!
The job queue: jobs wait in a line of limited length. A producer may wait for a slot; slots go to
waiting producers in the order they came, and a producer that was granted a slot puts its job into
it in a step of its own. A job is in flight from the moment it is put into the line until it is
finished.
-/
namespace Orchestrator

/-- A producer that waits for a slot, or was granted one, is known by its ticket. -/
abbrev Ticket := Nat

/-- The job queue. -/
structure Queue where
  /-- The most jobs that wait in the line. -/
  capacity : Nat
  /-- The jobs in the line, oldest first. -/
  line : List Job := []
  /-- The producers that wait for a slot, in the order they came. -/
  waiting : List Ticket := []
  /-- The producers that were granted a slot and have not used it yet. -/
  granted : List Ticket := []
  /-- Is nobody left to take jobs out? -/
  isClosed : Bool := false
  inFlight : InFlight := {}

namespace Queue

/-- The most slots a queue can have. -/
def maxCapacity : Nat := 2305843009213693951

/-- A queue with at least one slot. -/
def new (capacity : Nat) : Queue := ⟨max capacity 1, [], [], [], false, {}⟩

instance : Inhabited Queue := ⟨new 1⟩

/-- A queue, unless it would have more slots than there can be. -/
def open? (capacity : Nat) : Option Queue :=
  if capacity ≤ maxCapacity then some (new capacity) else none

/-- The slots that are taken. -/
def taken (q : Queue) : Nat := if q.isClosed then 0 else q.line.length + q.granted.length

/-- Is a slot free? -/
def hasSlot (q : Queue) : Bool := q.line.length + q.granted.length < q.capacity

/-- Puts a job at the end of the line. -/
def push (q : Queue) (job : Job) : Queue :=
  { q with line := q.line ++ [job], inFlight := q.inFlight.acquire job.scope }

/-- Accepts a job if a slot is free. -/
def offer (q : Queue) (job : Job) : Except JobError Unit × Queue :=
  match job.validate with
  | .error e => (.error (.invalid e), q)
  | .ok () =>
    if q.isClosed then (.error .queueClosed, q)
    else if q.hasSlot then (.ok (), q.push job)
    else (.error .queueFull, q)

/-! ## Waiting for a slot -/

/-- Grants a free slot to the producer that waits longest. -/
def grant (q : Queue) : Queue :=
  match q.waiting with
  | [] => q
  | ticket :: rest =>
    if q.hasSlot then { q with waiting := rest, granted := q.granted ++ [ticket] } else q

/-- A producer comes for a slot. -/
def join (q : Queue) (ticket : Ticket) : Queue :=
  grant { q with waiting := q.waiting ++ [ticket] }

/-- A producer puts its job into the slot it was granted. -/
def fill (q : Queue) (ticket : Ticket) (job : Job) : Queue :=
  push { q with granted := q.granted.erase ticket } job

/-- A producer goes away, and gives back the slot it was granted. -/
def leave (q : Queue) (ticket : Ticket) : Queue :=
  grant { q with waiting := q.waiting.erase ticket, granted := q.granted.erase ticket }

/-- Where a producer stands. -/
inductive Standing where
  /-- Its job cannot be accepted. -/
  | refused (error : JobError)
  /-- It has a slot. -/
  | granted
  | waiting
  deriving DecidableEq, Repr

/-- A producer comes with a job. -/
def enqueue (q : Queue) (ticket : Ticket) (job : Job) : Standing × Queue :=
  match job.validate with
  | .error e => (.refused (.invalid e), q)
  | .ok () =>
    if q.isClosed then (.refused .queueClosed, q)
    else
      let q := q.join ticket
      (if ticket ∈ q.granted then .granted else .waiting, q)

/-- Where a producer that came stands now. -/
def standing (q : Queue) (ticket : Ticket) : Standing :=
  if q.isClosed then .refused .queueClosed
  else if ticket ∈ q.granted then .granted
  else .waiting

/-! ## Taking jobs out -/

/-- Takes the oldest job out, which frees its slot. -/
def take? (q : Queue) : Option (Job × Queue) :=
  match q.line with
  | [] => none
  | job :: rest => some (job, grant { q with line := rest })

/-- A job that was taken out is finished. -/
def finish (q : Queue) (job : Job) : Queue :=
  { q with inFlight := q.inFlight.release job.scope }

/-- Nobody takes jobs out any more: those in the line are lost, and no more are accepted. -/
def close (q : Queue) : Queue :=
  { q with line := [], waiting := [], granted := [], isClosed := true }

end Queue

end Orchestrator
