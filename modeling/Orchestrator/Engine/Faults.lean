import Orchestrator.Engine.Memory

/-!
An engine in memory with arranged faults, and a log of its calls. A fault is about one kind of
call: it lets some of them pass, and then makes some fail before the engine sees them. A call that
panics leaves no entry in the log.
-/
namespace Orchestrator.Engine

/-- How an arranged fault makes a call fail. -/
inductive FaultKind where
  | notFound
  | api
  | panic
  deriving DecidableEq, Repr

/-- An arranged fault. -/
structure Fault where
  call : CallKind
  kind : FaultKind
  message : String
  /-- How many calls still pass. -/
  skip : Nat
  /-- How many calls fail after that. -/
  times : Nat
  deriving DecidableEq, Repr

/-- The failure a fault causes. -/
def Fault.failure (f : Fault) : Failure EngineError :=
  match f.kind with
  | .notFound => .error (.notFound f.message)
  | .api => .error (.api f.message)
  | .panic => .panic (some f.message)

/-- The first fault that concerns a call, used once: the failure it causes, if it causes one, and
the faults that remain. -/
def useFault (kind : CallKind) : List Fault → Option (Failure EngineError) × List Fault
  | [] => (none, [])
  | f :: rest =>
    if f.call = kind ∧ f.skip > 0 then (none, { f with skip := f.skip - 1 } :: rest)
    else if f.call = kind ∧ f.times > 0 then
      (some f.failure, { f with times := f.times - 1 } :: rest)
    else
      let (failure, rest) := useFault kind rest
      (failure, f :: rest)

/-- A call that was made, and the error it met. -/
structure LogEntry where
  call : Call
  error : Option EngineError
  deriving DecidableEq

/-- An engine in memory with arranged faults. -/
structure FaultyEngine where
  memory : Memory := {}
  faults : List Fault := []
  /-- The calls made so far, oldest first. -/
  log : List LogEntry := []

/-- A call as the log shows it. -/
def Call.line : Call → String
  | .pull reference => "pull " ++ reference
  | .create spec => "create " ++ spec.name ++ " " ++ spec.image
  | .start id => "start " ++ id
  | .stop id grace => "stop " ++ id ++ " " ++ String.ofList (Text.decimal (grace / 1000)) ++ "s"
  | .remove id force => "remove " ++ id ++ if force then " force" else ""
  | .list label value => "list " ++ label ++ "=" ++ value
  | .inspect id => "inspect " ++ id
  | .network name => "network " ++ name
  | .createNetwork name => "create_network " ++ name
  | .connect net id => "connect " ++ net ++ " " ++ id

/-- An entry as a line of text: the call, and the kind of its error. -/
def LogEntry.line (e : LogEntry) : String :=
  e.call.line ++ match e.error with
    | none => ""
    | some (.notFound _) => " -> NotFound"
    | some _ => " -> Api"

namespace FaultyEngine

instance : Inhabited FaultyEngine := ⟨{}⟩

/-- The engine with a call in its log. -/
def noted {call : Call} (e : FaultyEngine) (reply : call.Outcome) : FaultyEngine :=
  let error := match reply with
    | .ok _ => none
    | .error error => some error
  { e with log := e.log ++ [⟨call, error⟩] }

/-- Serves a call. -/
def serve (now : Instant) (e : FaultyEngine) (call : Call) : call.Reply × FaultyEngine :=
  let (failure, faults) := useFault call.kind e.faults
  let e := { e with faults := faults }
  match failure with
  | some (.panic text) => (.error (.panic text), e)
  | some (.error error) =>
    (.error (.error error), e.noted (Except.error error : call.Outcome))
  | none =>
    let (outcome, memory) := e.memory.serve now call
    (outcome.mapError .error, { e with memory := memory }.noted outcome)

end FaultyEngine

end Orchestrator.Engine
