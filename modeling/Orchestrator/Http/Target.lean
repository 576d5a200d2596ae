import Orchestrator.Text.Utf8

/-!
The targets of requests. A target is a path with a query, by itself or behind a scheme and an
authority, or an authority alone, which has no path. Only some characters may stand in each part;
a mark `#` ends the target.
-/
namespace Orchestrator.Http

/-- Can the character stand in a token, such as a method or the name of a parameter? -/
def isToken (c : Char) : Bool :=
  c.isAlphanum || "!#$%&'*+-.^_\x60|~".toList.contains c

/-- The target of a request. -/
structure Target where
  path : List Char
  query : List Char
  deriving DecidableEq, Repr

namespace Target

/-- The most bytes a target may have. -/
def maxBytes : Nat := 65534

/-- Can the character stand in a path? -/
def isPathChar (c : Char) : Bool :=
  let n := c.toNat
  n = 0x21 || n = 0x22 || (0x24 ≤ n && n ≤ 0x3B) || n = 0x3D || (0x40 ≤ n && n ≤ 0x5F)
    || 0x61 ≤ n

/-- Can the character stand in a query? -/
def isQueryChar (c : Char) : Bool :=
  let n := c.toNat
  n = 0x21 || (0x24 ≤ n && n ≤ 0x3B) || n = 0x3D || 0x3F ≤ n

/-- A path with its query. -/
def ofPath? (s : List Char) : Option Target :=
  let s := s.takeWhile (· ≠ '#')
  let path := s.takeWhile (· ≠ '?')
  let query := (s.drop path.length).drop 1
  if path.all isPathChar && query.all isQueryChar then some ⟨path, query⟩ else none

/-! ## Schemes and authorities -/

/-- The most characters of a scheme. -/
def maxScheme : Nat := 64

/-- Can the character stand in a scheme? -/
def isSchemeChar (c : Char) : Bool := c.isAlphanum || c = '+' || c = '-' || c = '.'

/-- What stands behind a scheme. The outer `none` is a scheme that is too long, the inner one a
target without a scheme. -/
def afterScheme? (s : List Char) : Option (Option (List Char)) :=
  let scheme := s.takeWhile isSchemeChar
  match s.drop scheme.length with
  | ':' :: '/' :: '/' :: rest => if scheme.length ≤ maxScheme then some (some rest) else none
  | _ => some none

/-- Can the character stand in an authority? -/
def isAuthorityChar (c : Char) : Bool :=
  c.isAlphanum || "!$&'()*+,-.:;=@[]_~%".toList.contains c

/-- Is the text an authority: at most one colon outside of brackets and behind the last `@`, no
percent sign there, brackets in one pair, and something behind the `@`? -/
def isAuthority (s : List Char) : Bool :=
  let parts := s.foldl
    (fun acc c => if c = '@' then [] :: acc else
      match acc with
      | [] => [[c]]
      | part :: rest => (part ++ [c]) :: rest)
    [[]]
  let host := parts.headD []
  let afterBracket := if host.contains ']' then (host.dropWhile (· ≠ ']')).drop 1 else host
  let bracketed := s.dropWhile (· ≠ '[')
  s.all isAuthorityChar
    && (parts.length = 1 || !host.isEmpty)
    && s.count '[' ≤ 1 && s.count ']' = s.count '['
    && (s.count '[' = 0 || bracketed.contains ']')
    && parts.all (fun part => part.count ':' ≤ 8)
    && afterBracket.count ':' ≤ 1 && !afterBracket.contains '%'

/-- Reads a target. -/
def parse? (text : String) : Option Target :=
  let s := text.toList
  if text.utf8ByteSize > maxBytes then none
  else
    match s with
    | [] => none
    | '/' :: _ => ofPath? s
    | ['*'] => some ⟨s, []⟩
    | _ => do
      match ← afterScheme? s with
      | none => if isAuthority s then some ⟨[], []⟩ else none
      | some rest =>
        let authority := rest.takeWhile fun c => c ≠ '/' && c ≠ '?' && c ≠ '#'
        if authority.isEmpty || !isAuthority authority then none
        else ofPath? (rest.drop authority.length)

/-! ## The parts of a target -/

/-- The pieces of a text between separators. -/
def pieces (separator : Char) (s : List Char) : List (List Char) :=
  s.foldr
    (fun c acc =>
      if c = separator then [] :: acc
      else
        match acc with
        | [] => [[c]]
        | piece :: rest => (c :: piece) :: rest)
    [[]]

/-- The segments of the path; the one before the first slash is empty. -/
def segments (t : Target) : List String := (pieces '/' t.path).map String.ofList

/-- The text of a segment with what is encoded decoded, if that is a text. -/
def segmentText? (segment : String) : Option String :=
  String.fromUTF8? ⟨(Text.percentDecode segment.toList).toArray⟩

/-- A piece of a query with its plus signs and encoded bytes decoded. -/
def queryText (s : List Char) : String :=
  String.ofList
    (Text.decodeLossy (Text.percentDecode (s.map fun c => if c = '+' then ' ' else c)))

/-- The names and values of the query, in order. -/
def parameters (t : Target) : List (String × String) :=
  ((pieces '&' t.query).filter (· ≠ [])).map fun piece =>
    let name := piece.takeWhile (· ≠ '=')
    (queryText name, queryText (piece.drop (name.length + 1)))

end Target

end Orchestrator.Http
