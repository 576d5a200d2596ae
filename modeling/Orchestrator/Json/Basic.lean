import Orchestrator.Text.Number

/-!
JSON texts as trees. Strings keep the spelling they have between their quotes and numbers the
parts they are spelled with, so that a reader decides about them only when it looks at them. A
text that stops being JSON somewhere is a tree too: `malformed` stands at that place and nothing
follows it.
-/
namespace Orchestrator

/-- A number as it is spelled. -/
structure Json.Number where
  negative : Bool
  whole : Nat
  /-- The digits after the point. -/
  fraction : List Char
  /-- The power of ten, if one is spelled. -/
  exponent : Option Int
  deriving DecidableEq, Repr

/-- A JSON text as a tree. -/
inductive Json where
  | null
  | bool (value : Bool)
  | number (spelled : Json.Number)
  /-- A string, by the characters between its quotes. -/
  | string (spelled : List Char)
  | array (items : List Json)
  /-- An object, by its members in order; keys are spelled as strings are. -/
  | object (members : List (List Char × Json))
  /-- The text is not JSON from here on. -/
  | malformed
  deriving Repr

namespace Json

instance : Inhabited Json := ⟨.null⟩

/-! ## The spelling of strings -/

/-- How a character is spelled in a string. -/
def escapeChar (c : Char) : List Char :=
  if c = '"' then ['\\', '"']
  else if c = '\\' then ['\\', '\\']
  else if c = '\n' then ['\\', 'n']
  else if c = '\r' then ['\\', 'r']
  else if c = '\t' then ['\\', 't']
  else if c = '\x08' then ['\\', 'b']
  else if c = '\x0c' then ['\\', 'f']
  else if c.toNat < 0x20 then ['\\', 'u'] ++ Text.hexPadded 4 c.toNat
  else [c]

/-- The spelling of a text. -/
def escape (s : List Char) : List Char := s.flatMap escapeChar

/-- The character of a one-letter escape. -/
def letterEscape? : Char → Option Char
  | '"' => some '"'
  | '\\' => some '\\'
  | '/' => some '/'
  | 'b' => some '\x08'
  | 'f' => some '\x0c'
  | 'n' => some '\n'
  | 'r' => some '\r'
  | 't' => some '\t'
  | _ => none

/-- The first half of a surrogate pair. -/
def isHighSurrogate (n : Nat) : Bool := 0xD800 ≤ n && n ≤ 0xDBFF

/-- The second half of a surrogate pair. -/
def isLowSurrogate (n : Nat) : Bool := 0xDC00 ≤ n && n ≤ 0xDFFF

/-- The text a spelling stands for; `none` when an escape is unknown or is half of a surrogate
pair. -/
def unescape : List Char → Option (List Char)
  | [] => some []
  | '\\' :: 'u' :: a :: b :: c :: d :: rest =>
    match Text.ofHex? [a, b, c, d] with
    | none => none
    | some n =>
      if isLowSurrogate n then none
      else if isHighSurrogate n then
        match rest with
        | '\\' :: 'u' :: a' :: b' :: c' :: d' :: rest' =>
          match Text.ofHex? [a', b', c', d'] with
          | none => none
          | some m =>
            if isLowSurrogate m then
              (unescape rest').map
                (Char.ofNat (0x10000 + 0x400 * (n - 0xD800) + (m - 0xDC00)) :: ·)
            else none
        | _ => none
      else (unescape rest).map (Char.ofNat n :: ·)
  | '\\' :: c :: rest =>
    match letterEscape? c with
    | none => none
    | some x => (unescape rest).map (x :: ·)
  | c :: rest => if c = '\\' then none else (unescape rest).map (c :: ·)

/-! ## Building trees -/

/-- The tree of a text. -/
def text (s : String) : Json := .string (escape s.toList)

/-- The tree of a whole number. -/
def nat (n : Nat) : Json := .number ⟨false, n, [], none⟩

/-- The tree of an integer. -/
def int (n : Int) : Json := .number ⟨n < 0, n.natAbs, [], none⟩

/-- The tree of an object with the given members. -/
def record (members : List (String × Json)) : Json :=
  .object (members.map fun m => (escape m.1.toList, m.2))

/-- The tree of a value that may be missing. -/
def ofOption {α : Type} (f : α → Json) : Option α → Json
  | none => .null
  | some a => f a

/-- The tree of a list of texts. -/
def texts (l : List String) : Json := .array (l.map text)

/-! ## Trees that are JSON throughout -/

mutual
/-- Is the text JSON throughout? -/
def isWellFormed : Json → Bool
  | .malformed => false
  | .array items => itemsWellFormed items
  | .object members => membersWellFormed members
  | _ => true

/-- Are all items JSON throughout? -/
def itemsWellFormed : List Json → Bool
  | [] => true
  | item :: rest => item.isWellFormed && itemsWellFormed rest

/-- Are all members JSON throughout? -/
def membersWellFormed : List (List Char × Json) → Bool
  | [] => true
  | (_, value) :: rest => value.isWellFormed && membersWellFormed rest
end

mutual
/-- How deep arrays and objects are nested. -/
def depth : Json → Nat
  | .array items => itemsDepth items + 1
  | .object members => membersDepth members + 1
  | _ => 0

/-- The depth of the deepest item. -/
def itemsDepth : List Json → Nat
  | [] => 0
  | item :: rest => max item.depth (itemsDepth rest)

/-- The depth of the deepest member. -/
def membersDepth : List (List Char × Json) → Nat
  | [] => 0
  | (_, value) :: rest => max value.depth (membersDepth rest)
end

end Json

end Orchestrator
