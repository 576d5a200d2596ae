import Orchestrator.Event.Basic

/-!
Sockets: a client follows a deployment over a connection. The socket's loop wakes up for one thing
at a time: an event to be sent on, a frame from the client, or a tick, at which it sends a ping. A
client that has not answered a ping for too long is given up at a tick.

`Socket.handle` says what the loop does when it wakes up, so a run of the loop is a list of wakes
with the times at which they are handled.
-/
namespace Orchestrator

/-- The kinds of frame that a client sends. -/
inductive FrameKind where
  | text
  | binary
  | ping
  | pong
  | close
  /-- A kind that has no meaning yet. -/
  | reserved
  deriving DecidableEq, Repr

/-- A frame from a client. -/
structure ClientFrame where
  kind : FrameKind
  payload : ByteArray

/-- The longest payload of a frame that is not data. -/
def ClientFrame.maxControlPayload : Nat := 125

/-- Does a frame break the rules? Pings, pongs and closes must be short, texts must be readable, and
what a close says starts with a code of two bytes. -/
def ClientFrame.isMalformed (f : ClientFrame) : Bool :=
  match f.kind with
  | .text => !f.payload.validateUTF8
  | .binary => false
  | .ping | .pong => f.payload.size > maxControlPayload
  | .close =>
    f.payload.size > maxControlPayload || f.payload.size = 1
      || !(f.payload.extract 2 f.payload.size).validateUTF8
  | .reserved => true

/-- A frame to a client. -/
inductive ServerFrame where
  | text (text : String)
  | ping
  /-- The answer to a ping, with its payload. -/
  | pong (payload : ByteArray)
  | close

/-- A socket. -/
structure Socket where
  /-- The deployment it follows. -/
  deployment : String
  /-- The number of its subscription. -/
  subscription : Nat
  /-- When the next tick is due. -/
  nextTick : Nat
  /-- When the client was last heard to answer a ping, or else when the socket was opened. -/
  lastPong : Nat
  /-- Was a ping sent that is not answered? -/
  awaitsPong : Bool := false
  /-- The frames from the client that were not looked at yet, oldest first. -/
  incoming : List ClientFrame := []
  /-- Has the client gone? -/
  isAbandoned : Bool := false
  /-- The frames that the loop has tried to send, oldest first, and whether each has reached the client. -/
  tried : List (ServerFrame × Bool) := []
  hasEnded : Bool := false
  deriving Inhabited

namespace Socket

/-- Milliseconds between two ticks. -/
def pingInterval : Nat := 30000

/-- Milliseconds of silence after which a client that owes a pong is given up. -/
def pongTimeout : Nat := 60000

/-- The events that may wait for a client to take them. -/
def bufferSize : Nat := 64

/-- A socket opened at a time. -/
def opened (deployment : String) (subscription now : Nat) : Socket :=
  { deployment, subscription, nextTick := now + pingInterval, lastPong := now }

/-- What the loop wakes up for. -/
inductive Wake where
  /-- A tick is due. -/
  | tick
  /-- An event has come. -/
  | event (event : Event)
  /-- No more events can come. -/
  | drained
  /-- A frame has come from the client. -/
  | frame (frame : ClientFrame)
  /-- The client has gone. -/
  | hangUp

/-- The frames that have reached the client, oldest first. -/
def sent (s : Socket) : List ServerFrame := (s.tried.filter Prod.snd).map Prod.fst

/-- Tries to send a frame. -/
def post (s : Socket) (goesThrough : Bool) (f : ServerFrame) : Socket :=
  { s with tried := s.tried ++ [(f, goesThrough)] }

/-- Ends the loop with a close, which is lost if it does not go through. -/
def finish (s : Socket) (goesThrough : Bool) : Socket :=
  { s.post goesThrough .close with hasEnded := true }

/-- Sends a frame; one that does not go through ends the loop. -/
def send (s : Socket) (goesThrough : Bool) (f : ServerFrame) : Socket :=
  if goesThrough then s.post true f else (s.post false f).finish false

/-- Is the client to be given up? -/
def isSilent (s : Socket) (now : Nat) : Bool := s.awaitsPong && now - s.lastPong > pongTimeout

/-- Looks at a frame from the client. Its close ends the loop, and another close does not reach it then. -/
def receive (s : Socket) (now : Nat) (goesThrough : Bool) (f : ClientFrame) : Socket :=
  if f.isMalformed then s.finish goesThrough
  else
    match f.kind with
    | .pong => { s with lastPong := now, awaitsPong := false }
    | .ping => s.post goesThrough (.pong f.payload)
    | .close => s.finish false
    | .text | .binary | .reserved => s

/-- Handles a wake at a time. `goesThrough` tells whether what is sent now reaches the client. Ticks
that were missed are handled one after the other. -/
def handle (s : Socket) (now : Nat) (goesThrough : Bool) : Wake → Socket
  | .tick =>
    let s := { s with nextTick := s.nextTick + pingInterval }
    if s.isSilent now then s.finish goesThrough
    else { s with awaitsPong := true }.send goesThrough .ping
  | .event e => s.send goesThrough (.text e.wireText)
  | .drained => s.finish goesThrough
  | .frame f => s.receive now goesThrough f
  | .hangUp => s.finish false

end Socket

end Orchestrator
