import Orchestrator.Http.MediaType
import Orchestrator.Json.Decode

/-!
Requests and responses, and what may be wrong with a request before its meaning is looked at.
-/
namespace Orchestrator.Http

/-- A request. -/
structure Request where
  method : String
  target : Target
  contentType : Option String
  body : String
  /-- Does the request ask for a socket? -/
  upgrades : Bool
  deriving DecidableEq

/-- A response. -/
structure Response where
  status : Nat
  /-- The body, if it is JSON. -/
  body : Option Json

/-- Can a text be a value of a header? -/
def isHeaderValue (s : String) : Bool :=
  s.toList.all fun c => (0x20 ≤ c.toNat && c.toNat ≠ 0x7F) || c = '\t'

namespace Request

/-- A request, if its parts are well formed. -/
def build? (method uri : String) (contentType : Option String) (body : String) (upgrades : Bool) :
    Option Request := do
  let target ← Target.parse? uri
  if !method.isEmpty && method.toList.all isToken && (contentType.map isHeaderValue).getD true then
    some ⟨method, target, contentType, body, upgrades⟩
  else none

/-- Does the request say that its body is JSON? -/
def hasJson (r : Request) : Bool :=
  match r.contentType with
  | none => false
  | some text =>
    text.toList.all (fun c => c.toNat < 0x7F) && (MediaType.parse? text).any MediaType.isJson

end Request

/-- Why a request is refused before its meaning is looked at. -/
inductive Rejection where
  /-- A part of the path, or the query, cannot be read. -/
  | unreadable
  /-- The body is not said to be JSON. -/
  | notJson
  /-- The body is too long. -/
  | tooLarge
  /-- The body is not JSON. -/
  | syntactic
  /-- The body is JSON of another shape than asked for. -/
  | shape
  /-- Nothing stands at the path. -/
  | unknownPath
  /-- What stands at the path does not know the method. -/
  | unknownMethod
  deriving DecidableEq, Repr

def Rejection.status : Rejection → Nat
  | .unreadable | .syntactic => 400
  | .unknownPath => 404
  | .unknownMethod => 405
  | .tooLarge => 413
  | .notJson => 415
  | .shape => 422

/-- The response to a rejected request, which has no JSON body. -/
def Rejection.response (r : Rejection) : Response := ⟨r.status, none⟩

namespace Request

/-- The most bytes a body may have. -/
def maxBody : Nat := 2097152

/-- Reads the body. -/
def readBody {α : Type} (r : Request) (read : Json → Json.Decoded α) : Except Rejection α :=
  if !r.hasJson then .error .notJson
  else if r.body.utf8ByteSize > maxBody then .error .tooLarge
  else
    match Json.decode read r.body.toList with
    | .ok a => .ok a
    | .error .syntactic => .error .syntactic
    | .error .shape => .error .shape

end Request

end Orchestrator.Http
