import Orchestrator.Json.Basic
import Orchestrator.Json.Parser
import Orchestrator.SortedMap

/-!
Typed reading of JSON trees. A tree is looked at in the order of its text, and the first thing
wrong with it decides the fault: the text may not be JSON there (`syntactic`), or be JSON of another
shape than asked for (`shape`).

A record is read from an object, by the names of its fields, or from an array, by their order.
Fields it does not know are passed over, and need only be JSON. A field given twice is a fault.
-/
namespace Orchestrator.Json

/-- Why a text cannot be read as a value of some type. -/
inductive Fault where
  /-- The text is not JSON. -/
  | syntactic
  /-- The text is JSON, but not of the wanted shape. -/
  | shape
  deriving DecidableEq, Repr

/-- The outcome of a typed reading. -/
abbrev Decoded (α : Type) := Except Fault α

/-- How a tree reaches its reader: straight from the text, or set aside first, because the kind of
the object around it was not known yet. A tree that was set aside has keys that are texts and
nothing else. -/
inductive Reading where
  | direct
  | buffered
  deriving DecidableEq, Repr

/-- Is the number too large for a binary double? -/
def Number.isHuge (n : Number) : Bool :=
  Text.exceedsDouble (Text.decimal n.whole ++ n.fraction)
    (n.exponent.getD 0 - n.fraction.length)

/-- The fault of a tree that is not of the wanted shape. Of a scalar the text itself is looked at
first; an array or object is refused at its bracket. -/
def mismatch : Json → Fault
  | .malformed => .syntactic
  | .string spelled => if (unescape spelled).isSome then .shape else .syntactic
  | .number n => if n.isHuge then .syntactic else .shape
  | _ => .shape

/-- A text. -/
def asText : Json → Decoded String
  | .string spelled =>
    match unescape spelled with
    | some s => .ok (String.ofList s)
    | none => .error .syntactic
  | j => .error (mismatch j)

/-- A truth value. -/
def asBool : Json → Decoded Bool
  | .bool b => .ok b
  | j => .error (mismatch j)

/-- The whole number a spelling writes: no sign, no fraction, no power of ten. -/
def Number.toNat? (n : Number) : Option Nat :=
  if n.negative ∨ n.fraction ≠ [] ∨ n.exponent ≠ none then none else some n.whole

/-- A whole number below a limit. -/
def asNat (limit : Nat) : Json → Decoded Nat
  | .number n =>
    match n.toNat? with
    | some v => if v < limit then .ok v else .error (mismatch (.number n))
    | none => .error (mismatch (.number n))
  | j => .error (mismatch j)

/-- A 16-bit number. -/
def asUInt16 (j : Json) : Decoded UInt16 := (asNat UInt16.size j).map UInt16.ofNat

/-- A 32-bit number. -/
def asUInt32 (j : Json) : Decoded UInt32 := (asNat UInt32.size j).map UInt32.ofNat

/-- A value that may be `null`. -/
def asOption {α : Type} (decode : Json → Decoded α) : Json → Decoded (Option α)
  | .null => .ok none
  | j => (decode j).map some

/-- A value found by a partial reading of a text. -/
def asParsed {α : Type} (parse? : String → Option α) (j : Json) : Decoded α := do
  match parse? (← asText j) with
  | some a => return a
  | none => .error .shape

/-- A list. -/
def asList {α : Type} (decode : Json → Decoded α) : Json → Decoded (List α)
  | .array items => items.mapM decode
  | j => .error (mismatch j)

/-- A list of texts. -/
def asTexts : Json → Decoded (List String) := asList asText

/-- The members of an object as entries, from keys and values read in turn. -/
def entries {κ ν : Type} (key : List Char → Decoded κ) (value : Json → Decoded ν) :
    List (List Char × Json) → Decoded (List (κ × ν))
  | [] => .ok []
  | (k, v) :: rest => do
    let k ← key k
    let v ← value v
    return (k, v) :: (← entries key value rest)

/-- A map; of two members with the same key the later one stays. -/
def asMap {κ ν : Type} [Ord κ] [Std.TransOrd κ] (key : List Char → Decoded κ)
    (value : Json → Decoded ν) : Json → Decoded (SortedMap κ ν)
  | .object members => (entries key value members).map SortedMap.ofList
  | j => .error (mismatch j)

/-- A key that is a text. -/
def keyText (spelled : List Char) : Decoded String :=
  match unescape spelled with
  | some s => .ok (String.ofList s)
  | none => .error .syntactic

/-- A map from texts to texts. -/
def asTextMap : Json → Decoded (SortedMap String String) := asMap keyText asText

/-- A key that is a 16-bit number: its decimal digits, with no sign, escape or leading zero. A key
set aside is a text and no number. -/
def keyUInt16 (reading : Reading) (spelled : List Char) : Decoded UInt16 :=
  match reading with
  | .buffered => .error .shape
  | .direct =>
    match readNumber spelled with
    | none => .error .syntactic
    | some (n, rest) => do
      let key ← asUInt16 (.number n)
      if rest.isEmpty then return key else .error .syntactic

/-- One of several names. A name may also stand as the only key of an object, with `null` (or,
set aside, an object without members) as its value. -/
def asChoice {α : Type} (parse? : String → Option α) (reading : Reading) : Json → Decoded α
  | .object [(key, value)] => do
    let name ← keyText key
    match parse? name with
    | none => .error .shape
    | some a =>
      match value, reading with
      | .null, _ => .ok a
      | .object [], .buffered => .ok a
      | v, _ => .error (mismatch v)
  | .object _ => .error .shape
  | j => asParsed parse? j

/-! ## Records -/

/-- What a missing field means. -/
inductive Absence where
  /-- The record cannot be read. -/
  | refused
  /-- The field is empty if the record is an object; an array must give it. -/
  | empty
  /-- The field has its default. -/
  | default
  deriving DecidableEq, Repr

/-- A field of a record: its name, what its absence means, and what is wrong with a value. -/
structure Field where
  name : String
  absence : Absence
  check : Json → Decoded Unit

/-- A field that must be there. -/
def required {α : Type} (name : String) (decode : Json → Decoded α) : Field :=
  ⟨name, .refused, fun j => (decode j).map fun _ => ()⟩

/-- A field that may be left out or `null`. -/
def nullable {α : Type} (name : String) (decode : Json → Decoded α) : Field :=
  ⟨name, .empty, fun j => (asOption decode j).map fun _ => ()⟩

/-- A field with a default. -/
def defaulted {α : Type} (name : String) (decode : Json → Decoded α) : Field :=
  ⟨name, .default, fun j => (decode j).map fun _ => ()⟩

/-- The fields that a text gives, each with its value. -/
abbrev Given := List (String × Json)

/-- The value of a field, if the text gives it. -/
def Given.value? (given : Given) (name : String) : Option Json :=
  (given.find? fun g => g.1 = name).map Prod.snd

/-- The fields that the members of an object give, looked at in order. -/
def givenByName (fields : List Field) : Given → List (List Char × Json) → Decoded Given
  | given, [] => .ok given
  | given, (key, value) :: rest =>
    match unescape key with
    | none => .error .syntactic
    | some name =>
      let name := String.ofList name
      match fields.find? (fun f => f.name = name) with
      | none =>
        if value.isWellFormed then givenByName fields given rest else .error .syntactic
      | some field =>
        if (given.value? name).isSome then .error .shape
        else
          match field.check value with
          | .error fault => .error fault
          | .ok () => givenByName fields (given ++ [(name, value)]) rest

/-- The fields that the items of an array give, looked at in order. -/
def givenByOrder (reading : Reading) : List Field → List Json → Decoded Given
  | _, .malformed :: _ => .error .syntactic
  | [], [] => .ok []
  | [], _ :: _ => .error (if reading = .direct then .syntactic else .shape)
  | field :: fields, [] =>
    if field.absence = .default then givenByOrder reading fields [] else .error .shape
  | field :: fields, item :: items => do
    field.check item
    return (field.name, item) :: (← givenByOrder reading fields items)

/-- The fields that a text gives for a record. -/
def asRecord (reading : Reading) (fields : List Field) : Json → Decoded Given
  | .object members => do
    let given ← givenByName fields [] members
    if fields.all fun f => f.absence ≠ .refused || (given.value? f.name).isSome then
      return given
    else .error .shape
  | .array items => givenByOrder reading fields items
  | j => .error (mismatch j)

namespace Given

variable {α : Type} (given : Given)

/-- The value of a field that must be there. -/
def get (name : String) (decode : Json → Decoded α) : Decoded α :=
  match given.value? name with
  | some j => decode j
  | none => .error .shape

/-- The value of a field that may be left out or `null`. -/
def get? (name : String) (decode : Json → Decoded α) : Decoded (Option α) :=
  match given.value? name with
  | some j => asOption decode j
  | none => .ok none

/-- The value of a field with a default. -/
def getD (name : String) (decode : Json → Decoded α) (default : α) : Decoded α :=
  match given.value? name with
  | some j => decode j
  | none => .ok default

end Given

/-! ## Setting a tree aside -/

mutual
/-- Can the tree be set aside: is it JSON throughout, with readable texts and numbers of double
range? -/
def isStorable : Json → Bool
  | .malformed => false
  | .string spelled => (unescape spelled).isSome
  | .number n => !n.isHuge
  | .array items => itemsStorable items
  | .object members => membersStorable members
  | _ => true

/-- Can all items be set aside? -/
def itemsStorable : List Json → Bool
  | [] => true
  | item :: rest => item.isStorable && itemsStorable rest

/-- Can all members be set aside? -/
def membersStorable : List (List Char × Json) → Bool
  | [] => true
  | (key, value) :: rest =>
    (unescape key).isSome && value.isStorable && membersStorable rest
end

/-- How deep a whole text may be nested where all of it is kept. -/
def maxDepth : Nat := 127

/-- Reads a whole text: a value with nothing but blanks after it. -/
def decode {α : Type} (value : Json → Decoded α) (s : List Char) : Decoded α := do
  let document := read s
  let a ← value document.root
  if document.isAlone then return a else .error .syntactic

end Orchestrator.Json
