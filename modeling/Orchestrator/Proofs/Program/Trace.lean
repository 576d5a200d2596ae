import Orchestrator.Proofs.Program.Setting

/-!
# Traces of programs

A trace is what a program asked so far and how it was answered. `p.Follows t q`: after the trace
`t`, the program `p` has become `q`. Nothing is assumed of the answers.

Main statement: `Meets.follows`, what is shown of a program in the setting that records traces
(`Setting.recording`) holds of every trace it can follow, complete or not.
-/
namespace Orchestrator

/-- A request and its answer. -/
structure Exchange where
  request : Request
  answer : request.Answer

/-- What was asked and answered, oldest first. -/
abbrev Trace : Type := List Exchange

namespace Program

variable {α : Type}

/-- A program, a trace, and what is left of the program after it. -/
inductive Follows : Program α → Trace → Program α → Prop
  | here (p : Program α) : Follows p [] p
  | answered {r : Request} {a : r.Answer} {next : r.Answer → Program α} {t : Trace}
      {q : Program α} (h : Follows (next a) t q) : Follows (.ask r next) (⟨r, a⟩ :: t) q

/-- The first exchanges of a program that is answered from a state, and what is left of it. -/
def exchanges {σ : Type} (serve : (r : Request) → σ → r.Answer × σ) :
    Nat → Program α → σ → Trace × Program α
  | n + 1, .ask r next, s =>
    let (a, s) := serve r s
    let (t, q) := exchanges serve n (next a) s
    (⟨r, a⟩ :: t, q)
  | _, p, _ => ([], p)

theorem follows_exchanges {σ : Type} (serve : (r : Request) → σ → r.Answer × σ) (n : Nat)
    (p : Program α) (s : σ) :
    p.Follows (exchanges serve n p s).1 (exchanges serve n p s).2 := by
  induction n generalizing p s with
  | zero => cases p <;> exact .here _
  | succ n ih =>
    cases p with
    | done a => exact .here _
    | ask r next => exact .answered (ih _ _)

end Program

/-- Every answer is possible, and the state is the trace so far. -/
def Setting.recording (allowed : Request → Trace → Prop) : Setting (Trace) where
  allowed := allowed
  answers r t a t' := t' = t ++ [⟨r, a⟩]

namespace Program

variable {α : Type} {allowed : Request → Trace → Prop}
  {post : α → Trace → Prop}

theorem Meets.follows {p q : Program α} {t₀ t : Trace}
    (h : p.Meets (.recording allowed) post t₀) (ht : p.Follows t q) :
    q.Meets (.recording allowed) post (t₀ ++ t) := by
  induction ht generalizing t₀ with
  | here p => simpa using h
  | answered _ ih => simpa using ih (h.2 _ _ rfl)

end Program

/-! ## What a trace shows of an engine -/

namespace Request

/-- The container that a request stops or removes. -/
def ends? : Request → Option String
  | .engine (.stop id _) => some id
  | .engine (.remove id _) => some id
  | _ => none

end Request

/-- The container that a program stops or removes next. -/
def Program.ending? {α : Type} : Program α → Option String
  | .done _ => none
  | .ask r _ => r.ends?

namespace Exchange

/-- The container that was created. -/
def created? : Exchange → Option String
  | ⟨.engine (.create _), .ok id⟩ => some id
  | _ => none

/-- The container that was started. -/
def started? : Exchange → Option String
  | ⟨.engine (.start id), .ok _⟩ => some id
  | _ => none

/-- The container that was inspected, and how it was found. -/
def inspected? : Exchange → Option (String × Container)
  | ⟨.engine (.inspect id), .ok c⟩ => some (id, c)
  | _ => none

/-- The containers that were listed. -/
def listed? : Exchange → Option (List Container)
  | ⟨.engine (.list ..), .ok l⟩ => some l
  | _ => none

end Exchange

namespace Trace

/-- The identifiers of the containers that a trace creates, in order. -/
def created (t : Trace) : List String := t.filterMap Exchange.created?

/-- The identifiers of the containers that a trace starts, in order. -/
def started (t : Trace) : List String := t.filterMap Exchange.started?

/-- What a trace inspects, in order. -/
def inspected (t : Trace) : List (String × Container) := t.filterMap Exchange.inspected?

/-- Every answer to a listing in a trace. -/
def listings (t : Trace) : List (List Container) := t.filterMap Exchange.listed?

/-- A trace in which no container is stopped or removed. -/
def EndsNothing (t : Trace) : Prop := ∀ x ∈ t, x.request.ends? = none

@[simp] theorem created_append (t t' : Trace) :
    created (t ++ t') = created t ++ created t' := List.filterMap_append

@[simp] theorem started_append (t t' : Trace) :
    started (t ++ t') = started t ++ started t' := List.filterMap_append

@[simp] theorem inspected_append (t t' : Trace) :
    inspected (t ++ t') = inspected t ++ inspected t' := List.filterMap_append

@[simp] theorem listings_append (t t' : Trace) :
    listings (t ++ t') = listings t ++ listings t' := List.filterMap_append

theorem EndsNothing.append {t t' : Trace} (h : EndsNothing t) (h' : EndsNothing t') :
    EndsNothing (t ++ t') := fun x hx => (List.mem_append.1 hx).elim (h x) (h' x)

end Trace

end Orchestrator
