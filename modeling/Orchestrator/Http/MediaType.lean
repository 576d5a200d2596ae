import Orchestrator.Http.Target

/-!
Media types, as far as they tell whether a body is JSON: the type is `application`, and the subtype
is `json`, before its first sign or behind the last plus sign.
-/
namespace Orchestrator.Http

/-- A media type, in lower case. -/
structure MediaType where
  type : String
  /-- The subtype up to the last plus sign. -/
  subtype : String
  /-- What follows the last plus sign. -/
  suffix : Option String
  deriving DecidableEq, Repr

namespace MediaType

/-- Where in its parameters the reading of a media type is. -/
inductive Place where
  /-- Before a parameter, or at the end. -/
  | start
  | name
  /-- Behind the equals sign. -/
  | value
  | token
  /-- Behind an opening quote. -/
  | opened
  | quoted
  /-- Behind a closing quote. -/
  | closed
  | failed
  deriving DecidableEq, Repr

/-- Can the character stand between quotes? -/
def isQuotable (c : Char) : Bool := 0x20 ≤ c.toNat && c.toNat ≠ 0x7F

/-- The place behind one more character. The first character between quotes never ends them. -/
def Place.next (place : Place) (c : Char) : Place :=
  match place with
  | .start => if c = ' ' then .start else if isToken c then .name else .failed
  | .name => if isToken c then .name else if c = '=' then .value else .failed
  | .value => if c = '"' then .opened else if isToken c then .token else .failed
  | .token => if isToken c then .token else if c = ';' then .start else .failed
  | .opened => if isQuotable c then .quoted else .failed
  | .quoted => if c = '"' then .closed else if isQuotable c then .quoted else .failed
  | .closed => if c = ' ' then .closed else if c = ';' then .start else .failed
  | .failed => .failed

/-- May the parameters end at a place? -/
def Place.isEnd : Place → Bool
  | .start | .value | .token | .closed => true
  | _ => false

/-- Are the parameters of a media type well formed? -/
def areParameters (s : List Char) : Bool := (s.foldl Place.next .start).isEnd

/-- A text in lower case. -/
def lower (s : List Char) : String := String.ofList (s.map Char.toLower)

/-- The parts of a subtype: a plus sign at its front is no separator. -/
def ofSubtype (type subtype : List Char) : MediaType :=
  match subtype with
  | [] => ⟨lower type, "", none⟩
  | first :: rest =>
    if rest.contains '+' then
      let suffix := (rest.reverse.takeWhile (· ≠ '+')).reverse
      let before := first :: rest.take (rest.length - suffix.length - 1)
      ⟨lower type, lower before, some (lower suffix)⟩
    else ⟨lower type, lower subtype, none⟩

/-- Reads a media type. -/
def parse? (text : String) : Option MediaType :=
  let s := text.toList
  let type := s.takeWhile isToken
  match s.drop type.length with
  | '/' :: rest =>
    let subtype := rest.takeWhile isToken
    let isWhole :=
      match rest.drop subtype.length with
      | [] => true
      | ';' :: parameters => !subtype.isEmpty && areParameters parameters
      | _ => false
    if !type.isEmpty && isWhole then some (ofSubtype type subtype) else none
  | _ => none

/-- Does a media type mean JSON? -/
def isJson (m : MediaType) : Bool :=
  m.type = "application" && (m.subtype = "json" || m.suffix = some "json")

end MediaType

end Orchestrator.Http
