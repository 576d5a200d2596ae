import Orchestrator.Store.Basic

/-!
Direct access to a collection by name. A collection must have a name; only a range without keys is
answered before the name is looked at.
-/
namespace Orchestrator.Store

/-- An operation on one collection. -/
inductive Operation where
  | create
  | drop
  | put (key : String) (value : ByteArray)
  | get (key : String)
  | values
  | valuesBetween (low high : String)
  | remove (key : String)

/-- What an operation answers. -/
inductive Outcome where
  | done
  /-- Whether the thing removed existed. -/
  | existed (existed : Bool)
  | value (value : Option ByteArray)
  | values (values : List ByteArray)

/-- Performs an operation on a collection that has a name. -/
def perform (s : Store) (collection : String) : Operation → Outcome × Store
  | .create => (.done, s.create collection)
  | .drop => let (existed, s) := s.drop collection; (.existed existed, s)
  | .put key value => (.done, s.put collection key value)
  | .get key => (.value (s.get? collection key), s)
  | .values => (.values (s.values collection), s)
  | .valuesBetween low high => (.values (s.valuesBetween collection low high), s)
  | .remove key => let (existed, s) := s.remove collection key; (.existed existed, s)

/-- Performs an operation; `none` when the collection has no name. -/
def access? (s : Store) (collection : String) (operation : Operation) : Option (Outcome × Store) :=
  match operation with
  | .valuesBetween low high =>
    if high < low then some (.values [], s)
    else if collection = "" then none
    else some (s.perform collection (.valuesBetween low high))
  | operation => if collection = "" then none else some (s.perform collection operation)

end Orchestrator.Store
