import Orchestrator.SortedMap
import Orchestrator.Validation

/-!
The store: named collections of records. A record is a text of bytes under a key, and records stand
in the order of their keys. `get?` is the view each operation is described by: a write is seen
under its own collection and key and nowhere else (`get?_put`, `get?_remove`, `get?_drop`).
-/
namespace Orchestrator

/-- The records of one collection. -/
abbrev Records := SortedMap String ByteArray

/-- Named collections of records. -/
structure Store where
  collections : SortedMap String Records

/-- Why a typed operation on the store fails. -/
inductive StoreError where
  | invalid (error : ValidationError)
  | unknownDeployment (name : String)
  | unknownSecret (key deployment : String)
  /-- A record is not of the form its collection holds. -/
  | undecodable
  deriving DecidableEq, Repr

def StoreError.message : StoreError → String
  | .invalid error => error.message
  | .unknownDeployment name => "not found: deployment " ++ name
  | .unknownSecret key deployment => "not found: secret " ++ key ++ " for " ++ deployment
  | .undecodable => "deserialization error: the record is malformed"

namespace Store

/-- The collection of deployments, by name. -/
def deploymentCollection : String := "deployments"

/-- The collection of finished jobs, by completion. -/
def activityCollection : String := "activity"

/-- The records of a collection; one that does not exist has none. -/
def records (s : Store) (collection : String) : Records :=
  (s.collections.find? collection).getD ∅

/-- Makes a collection, unless it exists. -/
def create (s : Store) (collection : String) : Store :=
  ⟨s.collections.insert collection (s.records collection)⟩

/-- A store with the collections that always exist. -/
def new : Store := ((⟨∅⟩ : Store).create deploymentCollection).create activityCollection

instance : Inhabited Store := ⟨new⟩

/-- Removes a collection with all its records, and tells whether it existed. -/
def drop (s : Store) (collection : String) : Bool × Store :=
  (s.collections.contains collection, ⟨s.collections.erase collection⟩)

/-- Writes a record, making its collection if need be. -/
def put (s : Store) (collection key : String) (value : ByteArray) : Store :=
  ⟨s.collections.insert collection ((s.records collection).insert key value)⟩

/-- The record under a key. -/
def get? (s : Store) (collection key : String) : Option ByteArray :=
  (s.records collection).find? key

/-- All records, in the order of their keys. -/
def values (s : Store) (collection : String) : List ByteArray := (s.records collection).values

/-- The records whose keys lie between two bounds, both included. -/
def valuesBetween (s : Store) (collection low high : String) : List ByteArray :=
  ((s.records collection).range low high).map Prod.snd

/-- Removes a record, making its collection if need be, and tells whether it existed. -/
def remove (s : Store) (collection key : String) : Bool × Store :=
  ((s.records collection).contains key,
    ⟨s.collections.insert collection ((s.records collection).erase key)⟩)

/-! ## The view -/

/-- A written collection is what was written, and every other one is as it was. -/
theorem find?_insert_collection (s : Store) (c c' : String) (r : Records) :
    (s.collections.insert c' r).find? c = if c = c' then some r else s.collections.find? c := by
  by_cases h : c = c' <;> simp [SortedMap.find?_insert, h]

theorem find?_erase_collection (s : Store) (c c' : String) :
    (s.collections.erase c').find? c = if c = c' then none else s.collections.find? c := by
  by_cases h : c = c' <;> simp [SortedMap.find?_erase, h]

theorem records_insert (s : Store) (c c' : String) (r : Records) :
    (⟨s.collections.insert c' r⟩ : Store).records c = if c = c' then r else s.records c := by
  by_cases h : c = c' <;> simp [records, find?_insert_collection, h]

@[simp] theorem get?_create (s : Store) (c k c' : String) :
    (s.create c').get? c k = s.get? c k := by
  simp only [get?, create, records_insert]
  split
  · subst_vars; rfl
  · rfl

theorem get?_put (s : Store) (c k c' k' : String) (v : ByteArray) :
    (s.put c' k' v).get? c k = if c = c' ∧ k = k' then some v else s.get? c k := by
  simp only [get?, put, records_insert]
  by_cases h : c = c'
  · subst h
    by_cases hk : k = k' <;> simp [SortedMap.find?_insert, hk]
  · simp [h]

theorem get?_remove (s : Store) (c k c' k' : String) :
    (s.remove c' k').2.get? c k = if c = c' ∧ k = k' then none else s.get? c k := by
  simp only [get?, remove, records_insert]
  by_cases h : c = c'
  · subst h
    by_cases hk : k = k' <;> simp [SortedMap.find?_erase, hk]
  · simp [h]

theorem get?_drop (s : Store) (c k c' : String) :
    (s.drop c').2.get? c k = if c = c' then none else s.get? c k := by
  by_cases h : c = c' <;> simp [get?, records, drop, SortedMap.find?_erase, h]

end Store

end Orchestrator
