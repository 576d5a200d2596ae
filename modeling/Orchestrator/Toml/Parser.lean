import Orchestrator.Toml.Basic
import Orchestrator.Toml.Lexical

/-!
Reading a TOML document into a table. Values nest by arrays and inline tables; lines are read one
by one, each a comment, a header or a key with its value.
-/
namespace Orchestrator.Toml

/-- A value written in one token. -/
def readScalar (s : List Char) : Option (Value × List Char) :=
  match s with
  | '"' :: _ | '\'' :: _ => (readString s).map fun r => (.string r.1, r.2)
  | 't' :: 'r' :: 'u' :: 'e' :: rest => some (.boolean true, rest)
  | 'f' :: 'a' :: 'l' :: 's' :: 'e' :: rest => some (.boolean false, rest)
  | 'i' :: 'n' :: 'f' :: rest => some (.float, rest)
  | 'n' :: 'a' :: 'n' :: rest => some (.float, rest)
  | _ =>
    if looksDated s then (readDatetime s).map fun rest => (.datetime, rest)
    else
      match readFloat s with
      | none => none
      | some (some rest) => some (.float, rest)
      | some none => (readInteger s).map fun r => (.integer r.1, r.2)

mutual
/-- A value; `fuel` bounds the work and `depth` the nesting that is left. -/
def readValue (fuel depth : Nat) (s : List Char) : Option (Value × List Char) :=
  match fuel with
  | 0 => none
  | fuel + 1 =>
    match s with
    | '[' :: rest =>
      match depth with
      | 0 => none
      | depth + 1 => (readItems fuel depth rest).map fun r => (.array r.1, r.2)
    | '\x7b' :: rest =>
      match depth with
      | 0 => none
      | depth + 1 =>
        match skipBlanks rest with
        | '\x7d' :: rest' => some (.table .explicit [], rest')
        | _ => (readPairs fuel depth [] rest).map fun r => (.table .explicit r.1, r.2)
    | _ => readScalar s

/-- The items of an array up to its closing bracket. -/
def readItems (fuel depth : Nat) (s : List Char) : Option (List Value × List Char) :=
  match fuel with
  | 0 => none
  | fuel + 1 =>
    match skipVoid s with
    | ']' :: rest => some ([], rest)
    | s' => do
      let (item, s'') ← readValue fuel depth s'
      match skipVoid s'' with
      | ',' :: rest => do
        let (items, rest') ← readItems fuel depth rest
        return (item :: items, rest')
      | ']' :: rest => return ([item], rest)
      | _ => none

/-- The entries of an inline table up to its closing brace, added to those read before. -/
def readPairs (fuel depth : Nat) (entries : Entries) (s : List Char) :
    Option (Entries × List Char) :=
  match fuel with
  | 0 => none
  | fuel + 1 => do
    let (path, s) ← readKey s
    let s ← Instant.readChar '=' s
    let (value, s) ← readValue fuel depth (skipBlanks s)
    let entries ← addValue .explicit entries path value
    match skipBlanks s with
    | ',' :: rest => readPairs fuel depth entries rest
    | '\x7d' :: rest => return (entries, rest)
    | _ => none
end

/-- A document while its lines are read: the finished tables, and the table that the last header
opened, with its place. -/
structure Draft where
  root : Entries
  /-- The path of the open table; the document itself has none. -/
  path : List String
  /-- Was the open table's header in double brackets? -/
  isItem : Bool
  opened : Entries

/-- Puts the open table into its place. -/
def Draft.close (d : Draft) : Option Entries :=
  match d.path.getLast? with
  | none => some d.opened
  | some key =>
    descend .parent (fun _ entries =>
      if d.isItem then
        match entries.find? key with
        | none => some (entries.set key (.tables [.table .explicit d.opened]))
        | some (.tables items) =>
          some (entries.set key (.tables (items ++ [.table .explicit d.opened])))
        | some _ => none
      else
        match entries.find? key with
        | none => some (entries.set key (.table .explicit d.opened))
        | some (.table origin _) =>
          if origin.isImplicit then some (entries.set key (.table .explicit d.opened)) else none
        | some _ => none)
      .explicit d.root d.path.dropLast

/-- The entries that the table at a path has already, because tables in it were named before its
own header; `none` when its header is not allowed. -/
def priorEntries (root : Entries) (path : List String) : Option Entries :=
  match root, path with
  | _, [] => none
  | entries, [key] =>
    match entries.find? key with
    | none => some []
    | some (.table .parent inner) => some inner
    | some _ => none
  | entries, key :: path =>
    match entries.find? key with
    | none => some []
    | some (.table _ inner) => priorEntries inner path
    | some (.tables items) =>
      match items.getLast? with
      | some (.table _ inner) => priorEntries inner path
      | _ => none
    | some _ => none

/-- May a header in double brackets stand here? -/
def admitsItem (root : Entries) (path : List String) : Bool :=
  match root, path with
  | _, [] => false
  | entries, [key] =>
    match entries.find? key with
    | none => true
    | some (.tables _) => true
    | some _ => false
  | entries, key :: path =>
    match entries.find? key with
    | none => true
    | some (.table _ inner) => admitsItem inner path
    | some (.tables items) =>
      match items.getLast? with
      | some (.table _ inner) => admitsItem inner path
      | _ => false
    | some _ => false

/-- Opens the table of a header. -/
def Draft.header (d : Draft) (path : List String) : Option Draft := do
  let root ← d.close
  return ⟨root, path, false, ← priorEntries root path⟩

/-- Opens the table of a header in double brackets. -/
def Draft.itemHeader (d : Draft) (path : List String) : Option Draft := do
  let root ← d.close
  if admitsItem root path then return ⟨root, path, true, []⟩ else none

/-- Reads the lines of a document; `fuel` bounds their number. -/
def readLines : Nat → Draft → List Char → Option Entries
  | 0, _, _ => none
  | fuel + 1, d, s =>
    match skipBlanks s with
    | [] => d.close
    | '#' :: _ => do readLines fuel d (← readLineEnd s)
    | '\n' :: rest => readLines fuel d rest
    | '\r' :: '\n' :: rest => readLines fuel d rest
    | '[' :: '[' :: rest => do
      let (path, rest) ← readKey rest
      match rest with
      | ']' :: ']' :: rest => do
        readLines fuel (← d.itemHeader path) (← readLineEnd rest)
      | _ => none
    | '[' :: rest => do
      let (path, rest) ← readKey rest
      match rest with
      | ']' :: rest => do readLines fuel (← d.header path) (← readLineEnd rest)
      | _ => none
    | s => do
      let (path, s) ← readKey s
      let s ← Instant.readChar '=' s
      let (value, s) ← readValue (s.length + 1) depthLimit (skipBlanks s)
      let opened ← addValue .explicit d.opened path value
      readLines fuel { d with opened } (← readLineEnd s)

/-- The text without a byte order mark in front. -/
def skipMark : List Char → List Char
  | c :: rest => if c.toNat = 0xFEFF then rest else c :: rest
  | [] => []

/-- Reads a document. -/
def read (s : List Char) : Option Entries :=
  let s := skipMark s
  readLines (s.length + 1) ⟨[], [], false, []⟩ s

end Orchestrator.Toml
