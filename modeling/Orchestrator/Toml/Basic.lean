import Orchestrator.Text.Number

/-!
TOML values, and the table under construction while a document is read.

A document defines its tables in pieces: by headers, by dotted keys and in line. Each table
remembers how it came to be, which decides what may still be added to it.
-/
namespace Orchestrator.Toml

/-- How a table came to be. -/
inductive Origin where
  /-- By its own header, in line, or as the document itself. -/
  | explicit
  /-- As a parent in a header. -/
  | parent
  /-- By a dotted key. -/
  | dotted
  deriving DecidableEq, Repr

/-- A TOML value. -/
inductive Value where
  | string (text : String)
  | integer (value : Int)
  | float
  | boolean (value : Bool)
  | datetime
  | array (items : List Value)
  | table (origin : Origin) (entries : List (String × Value))
  /-- Tables under one header in double brackets. -/
  | tables (items : List Value)
  deriving Repr

/-- The entries of a table in the order of their first appearance. -/
abbrev Entries := List (String × Value)

/-- The value under a key. -/
def Entries.find? (entries : Entries) (key : String) : Option Value :=
  (List.find? (fun e => e.1 = key) entries).map Prod.snd

/-- The entries with `value` under a key, which keeps its place if it was there. -/
def Entries.set (entries : Entries) (key : String) (value : Value) : Entries :=
  if entries.any fun e => e.1 = key then
    entries.map fun e => if e.1 = key then (key, value) else e
  else entries ++ [(key, value)]

/-- Is the table there only because tables or values in it were named? -/
def Origin.isImplicit : Origin → Bool
  | .explicit => false
  | _ => true

/-- The entries with those of the table at `path` replaced by their image, where missing tables on
the way are made with an origin. A table that was defined on its own cannot be entered by a dotted
key; in a header, the last table of a run of tables is meant. The image is told how the table came
to be. -/
def descend (origin : Origin) (change : Origin → Entries → Option Entries) (self : Origin)
    (entries : Entries) : List String → Option Entries
  | [] => change self entries
  | key :: path =>
    match entries.find? key with
    | none => do
      let inner ← descend origin change origin [] path
      return entries.set key (.table origin inner)
    | some (.table self' inner) =>
      if origin = .dotted ∧ !self'.isImplicit then none
      else do
        let inner ← descend origin change self' inner path
        return entries.set key (.table self' inner)
    | some (.tables items) =>
      match items.getLast? with
      | some (.table self' inner) => do
        let inner ← descend origin change self' inner path
        return entries.set key (.tables (items.dropLast ++ [.table self' inner]))
      | _ => none
    | some _ => none

/-- Adds a value under a key that is not there yet. A dotted key may only add to a table that dotted
keys made. -/
def addNew (isDotted : Bool) (key : String) (value : Value) (self : Origin) (entries : Entries) :
    Option Entries :=
  if (self = .dotted) ≠ isDotted then none
  else if (entries.find? key).isSome then none
  else some (entries.set key value)

/-- Adds a value under a dotted key. -/
def addValue (self : Origin) (entries : Entries) (path : List String) (value : Value) :
    Option Entries :=
  match path.getLast? with
  | none => none
  | some key =>
    descend .dotted (addNew (1 < path.length) key value) self entries path.dropLast

end Orchestrator.Toml
