import Orchestrator.Json.Basic

/-!
Reading a JSON text into a tree. Reading never fails: what cannot be read becomes `malformed`, and
the reading of the text ends there. Each reader also gives the rest of the text, which is no longer
than the text.
-/
namespace Orchestrator.Json

/-- Blanks between tokens. -/
def isSpace (c : Char) : Bool := c = ' ' || c = '\n' || c = '\t' || c = '\r'

/-- The text from its first character that is not a blank. -/
def skipSpace (s : List Char) : List Char := s.dropWhile isSpace

/-- What is left of a text. -/
abbrev Rest (s : List Char) := { r : List Char // r.length ≤ s.length }

theorem length_dropWhile_le {α : Type} (p : α → Bool) (s : List α) :
    (s.dropWhile p).length ≤ s.length := by
  induction s with
  | nil => simp
  | cons a s ih =>
    by_cases h : p a
    · simp only [List.dropWhile, h, List.length_cons]; omega
    · simp [List.dropWhile, h]

theorem length_skipSpace_le (s : List Char) : (skipSpace s).length ≤ s.length :=
  length_dropWhile_le _ s

/-- The spelling of a string up to its closing quote, and what follows the quote. Escapes must be
complete, though a surrogate need not have its partner; controls must be escaped. -/
def readSpelling : List Char → Option (List Char × List Char)
  | [] => none
  | '"' :: rest => some ([], rest)
  | '\\' :: 'u' :: a :: b :: c :: d :: rest =>
    if (Text.ofHex? [a, b, c, d]).isSome then
      (readSpelling rest).map fun r => ('\\' :: 'u' :: a :: b :: c :: d :: r.1, r.2)
    else none
  | '\\' :: c :: rest =>
    if (letterEscape? c).isSome then
      (readSpelling rest).map fun r => ('\\' :: c :: r.1, r.2)
    else none
  | c :: rest =>
    if c = '\\' ∨ c.toNat < 0x20 then none
    else (readSpelling rest).map fun r => (c :: r.1, r.2)

theorem length_readSpelling {s : List Char} {r : List Char × List Char}
    (h : readSpelling s = some r) : r.2.length < s.length := by
  fun_induction readSpelling s generalizing r with
  | case1 => simp at h
  | case2 rest => simp at h; subst h; simp
  | case3 a b c d rest _ ih =>
    obtain ⟨u, hu, rfl⟩ := Option.map_eq_some_iff.1 h
    have := ih hu
    simp only [List.length_cons]; omega
  | case4 => simp at h
  | case5 c rest _ _ ih =>
    obtain ⟨u, hu, rfl⟩ := Option.map_eq_some_iff.1 h
    have := ih hu
    simp only [List.length_cons]; omega
  | case6 => simp at h
  | case7 => simp at h
  | case8 c rest _ _ _ _ ih =>
    obtain ⟨u, hu, rfl⟩ := Option.map_eq_some_iff.1 h
    have := ih hu
    simp only [List.length_cons]; omega

/-- The digits at the front of a text, and the rest. -/
def spanDigits (s : List Char) : List Char × List Char :=
  (s.takeWhile Char.isDigit, s.dropWhile Char.isDigit)

/-- The whole part of a number: a lone zero, or digits that do not start with one. -/
def readWhole (s : List Char) : Option (Nat × List Char) :=
  match spanDigits s with
  | ([], _) => none
  | ('0' :: _ :: _, _) => none
  | (digits, rest) => some (Text.ofDecimal digits, rest)

/-- The digits after a point, if there is one. -/
def readFraction : List Char → Option (List Char × List Char)
  | '.' :: rest =>
    match spanDigits rest with
    | ([], _) => none
    | (digits, rest) => some (digits, rest)
  | s => some ([], s)

/-- The digits of an exponent after its sign. -/
def readExponentDigits (negative : Bool) (s : List Char) : Option (Option Int × List Char) :=
  match spanDigits s with
  | ([], _) => none
  | (digits, rest) =>
    let n : Int := Text.ofDecimal digits
    some (some (if negative then -n else n), rest)

/-- The power of ten, if one is spelled. -/
def readExponent : List Char → Option (Option Int × List Char)
  | 'e' :: '-' :: rest => readExponentDigits true rest
  | 'E' :: '-' :: rest => readExponentDigits true rest
  | 'e' :: '+' :: rest => readExponentDigits false rest
  | 'E' :: '+' :: rest => readExponentDigits false rest
  | 'e' :: rest => readExponentDigits false rest
  | 'E' :: rest => readExponentDigits false rest
  | s => some (none, s)

/-- A number without its sign. -/
def readMagnitude (negative : Bool) (s : List Char) : Option (Number × List Char) := do
  let (whole, s) ← readWhole s
  let (fraction, s) ← readFraction s
  let (exponent, s) ← readExponent s
  return (⟨negative, whole, fraction, exponent⟩, s)

/-- A number. -/
def readNumber : List Char → Option (Number × List Char)
  | '-' :: rest => readMagnitude true rest
  | s => readMagnitude false s

/-- The rest of a text, cut to the text's own length; readers give rests that need no cut. -/
def Rest.of (s r : List Char) : Rest s :=
  if h : r.length ≤ s.length then ⟨r, h⟩ else ⟨[], Nat.zero_le _⟩

mutual
/-- The value at the front of a text. -/
def readValue (s : List Char) : Json × Rest s :=
  match h : skipSpace s with
  | [] => (.malformed, ⟨[], Nat.zero_le _⟩)
  | '[' :: rest =>
    have hlen : rest.length < s.length := by
      have := length_skipSpace_le s; simp only [h, List.length_cons] at this; omega
    match h' : skipSpace rest with
    | ']' :: rest' =>
      (.array [], ⟨rest', by
        have := length_skipSpace_le rest; simp only [h', List.length_cons] at this; omega⟩)
    | _ =>
      let (items, r) := readItems rest
      (.array items, ⟨r.val, by have := r.property; omega⟩)
  | '\x7b' :: rest =>
    have hlen : rest.length < s.length := by
      have := length_skipSpace_le s; simp only [h, List.length_cons] at this; omega
    match h' : skipSpace rest with
    | '\x7d' :: rest' =>
      (.object [], ⟨rest', by
        have := length_skipSpace_le rest; simp only [h', List.length_cons] at this; omega⟩)
    | _ =>
      let (members, r) := readMembers rest
      (.object members, ⟨r.val, by have := r.property; omega⟩)
  | '"' :: rest =>
    match readSpelling rest with
    | some (spelled, rest') => (.string spelled, Rest.of s rest')
    | none => (.malformed, ⟨[], Nat.zero_le _⟩)
  | 't' :: 'r' :: 'u' :: 'e' :: rest => (.bool true, Rest.of s rest)
  | 'f' :: 'a' :: 'l' :: 's' :: 'e' :: rest => (.bool false, Rest.of s rest)
  | 'n' :: 'u' :: 'l' :: 'l' :: rest => (.null, Rest.of s rest)
  | c :: rest =>
    match readNumber (c :: rest) with
    | some (n, rest') => (.number n, Rest.of s rest')
    | none => (.malformed, ⟨[], Nat.zero_le _⟩)
termination_by (s.length, 0)

/-- The items of an array from the next one up to the closing bracket. -/
def readItems (s : List Char) : List Json × Rest s :=
  let (item, r) := readValue s
  match h : skipSpace r.val with
  | ']' :: rest =>
    ([item], ⟨rest, by
      have := length_skipSpace_le r.val; have := r.property
      simp only [h, List.length_cons] at *; omega⟩)
  | ',' :: rest =>
    have hlen : rest.length < s.length := by
      have := length_skipSpace_le r.val; have := r.property
      simp only [h, List.length_cons] at *; omega
    let (items, r') := readItems rest
    (item :: items, ⟨r'.val, by have := r'.property; omega⟩)
  | _ => ([item, .malformed], ⟨[], Nat.zero_le _⟩)
termination_by (s.length, 1)

/-- The members of an object from the next one up to the closing brace. -/
def readMembers (s : List Char) : List (List Char × Json) × Rest s :=
  match h : skipSpace s with
  | '"' :: rest =>
    match hk : readSpelling rest with
    | none => ([([], .malformed)], ⟨[], Nat.zero_le _⟩)
    | some (key, afterKey) =>
      match hc : skipSpace afterKey with
      | ':' :: rest' =>
        have hlen : rest'.length < s.length := by
          have h1 := length_skipSpace_le s
          have h2 := length_readSpelling hk
          have h3 := length_skipSpace_le afterKey
          simp only [h, hc, List.length_cons] at *; omega
        let (value, r) := readValue rest'
        match hn : skipSpace r.val with
        | '\x7d' :: rest'' =>
          ([(key, value)], ⟨rest'', by
            have h4 := length_skipSpace_le r.val; have h5 := r.property
            simp only [hn, List.length_cons] at h4; omega⟩)
        | ',' :: rest'' =>
          have hlen' : rest''.length < s.length := by
            have h4 := length_skipSpace_le r.val; have h5 := r.property
            simp only [hn, List.length_cons] at h4; omega
          let (members, r') := readMembers rest''
          ((key, value) :: members, ⟨r'.val, by have := r'.property; omega⟩)
        | _ => ([(key, value), ([], .malformed)], ⟨[], Nat.zero_le _⟩)
      | _ => ([(key, .malformed)], ⟨[], Nat.zero_le _⟩)
  | _ => ([([], .malformed)], ⟨[], Nat.zero_le _⟩)
termination_by (s.length, 1)
end

/-- A text as a document: the value at its front, and whether only blanks follow. -/
structure Document where
  root : Json
  isAlone : Bool

/-- Reads a text. -/
def read (s : List Char) : Document :=
  let (root, rest) := readValue s
  ⟨root, (skipSpace rest.val).isEmpty⟩

end Orchestrator.Json
