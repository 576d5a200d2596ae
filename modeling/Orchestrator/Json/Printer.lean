import Orchestrator.Json.Basic

/-!
The compact text of a JSON tree: no blanks, members in order.
-/
namespace Orchestrator.Json

/-- The text of a number. -/
def Number.render (n : Number) : List Char :=
  (if n.negative then ['-'] else []) ++ Text.decimal n.whole
    ++ (if n.fraction.isEmpty then [] else '.' :: n.fraction)
    ++ match n.exponent with
      | none => []
      | some e => 'e' :: (if e < 0 then ['-'] else []) ++ Text.decimal e.natAbs

/-- A spelling between its quotes. -/
def quote (spelled : List Char) : List Char := '"' :: spelled ++ ['"']

mutual
/-- The text of a tree. -/
def renderChars : Json → List Char
  | .null => ['n', 'u', 'l', 'l']
  | .bool true => ['t', 'r', 'u', 'e']
  | .bool false => ['f', 'a', 'l', 's', 'e']
  | .number n => n.render
  | .string spelled => quote spelled
  | .array [] => ['[', ']']
  | .array (item :: rest) => '[' :: renderChars item ++ renderItems rest
  | .object [] => ['\x7b', '\x7d']
  | .object ((key, value) :: rest) =>
    '\x7b' :: quote key ++ ':' :: renderChars value ++ renderMembers rest
  | .malformed => []

/-- The items after the first, up to the closing bracket. -/
def renderItems : List Json → List Char
  | [] => [']']
  | item :: rest => ',' :: renderChars item ++ renderItems rest

/-- The members after the first, up to the closing brace. -/
def renderMembers : List (List Char × Json) → List Char
  | [] => ['\x7d']
  | (key, value) :: rest => ',' :: quote key ++ ':' :: renderChars value ++ renderMembers rest
end

/-- The text of a tree. -/
def render (j : Json) : String := String.ofList j.renderChars

end Orchestrator.Json
