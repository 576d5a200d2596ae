import Orchestrator.Text.Percent

/-!
The addresses of an engine's objects. An address is made by putting a name into a path; the name is
not quoted, so marks that end a path, and steps up the path, have their usual meaning there.
-/
namespace Orchestrator.Engine.Remote

/-- Where a request goes: a path and, where the path itself carried one, a query. -/
structure Address where
  path : String
  query : List (String × String)
  deriving DecidableEq, Repr

namespace Address

/-- The characters of a path that are encoded. -/
def isPathEncoded (c : Char) : Bool :=
  c = ' ' || c = '"' || c = '<' || c = '>' || c = '\x60' || c = '\x7b' || c = '\x7d'

/-- The characters that have no place in an address and are dropped. -/
def isDropped (c : Char) : Bool := c = '\t' || c = '\n' || c = '\r'

/-- The segments of a path, between slashes of either kind. -/
def segments (path : List Char) : List (List Char) :=
  path.foldr
    (fun c acc =>
      if c = '/' ∨ c = '\\' then [] :: acc
      else
        match acc with
        | [] => [[c]]
        | segment :: rest => (c :: segment) :: rest)
    [[]]

/-- The segment with its encoded dots decoded. -/
def plainDots : List Char → List Char
  | '%' :: '2' :: 'e' :: rest => '.' :: plainDots rest
  | '%' :: '2' :: 'E' :: rest => '.' :: plainDots rest
  | c :: rest => c :: plainDots rest
  | [] => []

/-- Follows segments from a place in the tree of paths. -/
def walk (place : List (List Char)) : List (List Char) → List (List Char)
  | [] => place
  | segment :: rest =>
    let last := rest.isEmpty
    if plainDots segment = ['.'] then walk (if last then place ++ [[]] else place) rest
    else if plainDots segment = ['.', '.'] then
      walk (if last then place.dropLast ++ [[]] else place.dropLast) rest
    else walk (place ++ [Text.percentEncode isPathEncoded segment]) rest

/-- A piece of a query with its plus signs and encoded bytes decoded. -/
def queryText (s : List Char) : String :=
  let bytes := Text.percentDecode (s.map fun c => if c = '+' then ' ' else c)
  (String.fromUTF8? ⟨bytes.toArray⟩).getD ""

/-- The pairs of a query. -/
def queryPairs (query : List Char) : List (String × String) :=
  ((String.ofList query).splitOn "&").filterMap fun pair =>
    if pair = "" then none
    else
      let name := pair.toList.takeWhile (· ≠ '=')
      some (queryText name, queryText (pair.toList.drop (name.length + 1)))

/-- The address of a path. -/
def ofPath (path : String) : Address :=
  let s := path.toList.filter (!isDropped ·)
  let s := (s.reverse.dropWhile fun c => c.toNat ≤ 0x20).reverse
  let s := s.takeWhile (· ≠ '#')
  let place := s.takeWhile (· ≠ '?')
  let kept := walk [] ((segments place).drop 1)
  { path := String.ofList (kept.flatMap fun segment => '/' :: segment)
    query := queryPairs ((s.dropWhile (· ≠ '?')).drop 1) }

end Address

end Orchestrator.Engine.Remote
