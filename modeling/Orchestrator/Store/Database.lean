import Orchestrator.Store.Basic

/-!
Where a store is kept: in memory, where it ends with its database, or in a file, which holds it
from one opening to the next and which only one database has open at a time.
-/
namespace Orchestrator

/-- Where a store is kept. -/
inductive Medium where
  | memory
  | file
  deriving DecidableEq, Repr

/-- Why a database cannot be opened. -/
inductive OpenError where
  /-- The file holds something else. -/
  | notAStore
  /-- Another database has the file open. -/
  | inUse
  deriving DecidableEq, Repr

/-- An open store. -/
structure Database where
  medium : Medium
  store : Store

namespace Database

/-- Opens a store; a file without content becomes a new one. -/
def create (medium : Medium) (content : ByteArray) : Except OpenError Database :=
  if medium = .file ∧ content.size ≠ 0 then .error .notAStore else .ok ⟨medium, .new⟩

/-- Closes a store and opens it again. -/
def reopen (d : Database) : Database :=
  match d.medium with
  | .memory => { d with store := .new }
  | .file => d

/-- Opens the store a second time. -/
def openAgain (d : Database) : Except OpenError Unit :=
  match d.medium with
  | .memory => .ok ()
  | .file => .error .inUse

end Database

end Orchestrator
