import Orchestrator.Text.Number
import Orchestrator.Instant

/-!
The tokens of TOML: blanks, comments, keys, strings, numbers and dates. Every reader takes a text
and gives what it read together with the rest, or `none`.
-/
namespace Orchestrator.Toml

/-- A reader of tokens. -/
abbrev Reader (α : Type) := List Char → Option (α × List Char)

/-! ## Blanks and comments -/

/-- A blank within a line. -/
def isBlank (c : Char) : Bool := c = ' ' || c = '\t'

def skipBlanks (s : List Char) : List Char := s.dropWhile isBlank

/-- A character that may stand in a comment. -/
def isCommentChar (c : Char) : Bool := c = '\t' || (0x20 ≤ c.toNat && c.toNat ≠ 0x7F)

/-- The text after a line break. -/
def readNewline : List Char → Option (List Char)
  | '\n' :: rest => some rest
  | '\r' :: '\n' :: rest => some rest
  | _ => none

/-- The text after a comment, if there is one. -/
def skipComment : List Char → List Char
  | '#' :: rest => rest.dropWhile isCommentChar
  | s => s

/-- The text after the end of a line: blanks, perhaps a comment, then a line break or the end. -/
def readLineEnd (s : List Char) : Option (List Char) :=
  match skipComment (skipBlanks s) with
  | [] => some []
  | s' => readNewline s'

/-- The text after blanks, line breaks and comments, as between the items of an array; `fuel` is
the number of lines that may be passed. -/
def skipLines : Nat → List Char → List Char
  | 0, s => s
  | fuel + 1, s =>
    let s' := skipBlanks s
    match skipComment s' with
    | s'' =>
      match readNewline s'' with
      | some rest => skipLines fuel rest
      | none => if s'.head? = some '#' then s' else s''

/-- The text after blanks, line breaks and comments. -/
def skipVoid (s : List Char) : List Char := skipLines s.length s

/-! ## Strings -/

/-- A character that may stand in a string unescaped, quotes apart. -/
def isStringChar (c : Char) : Bool := c = '\t' || (0x20 ≤ c.toNat && c.toNat ≠ 0x7F)

/-- The character with a code, if it is one. -/
def scalar? (n : Nat) : Option Char :=
  if n.isValidChar then some (Char.ofNat n) else none

/-- The character of an escape, after its backslash. -/
def readEscape : Reader Char
  | 'b' :: rest => some ('\x08', rest)
  | 't' :: rest => some ('\t', rest)
  | 'n' :: rest => some ('\n', rest)
  | 'f' :: rest => some ('\x0c', rest)
  | 'r' :: rest => some ('\r', rest)
  | '"' :: rest => some ('"', rest)
  | '\\' :: rest => some ('\\', rest)
  | 'u' :: rest =>
    if rest.length < 4 then none
    else do
      let c ← scalar? (← Text.ofHex? (rest.take 4))
      return (c, rest.drop 4)
  | 'U' :: rest =>
    if rest.length < 8 then none
    else do
      let c ← scalar? (← Text.ofHex? (rest.take 8))
      return (c, rest.drop 8)
  | _ => none

/-- The text of a basic string after its opening quote; `fuel` bounds the number of characters. -/
def readBasic : Nat → Reader (List Char)
  | 0, _ => none
  | fuel + 1, s =>
    match s with
    | '"' :: rest => some ([], rest)
    | '\\' :: rest => do
      let (c, rest) ← readEscape rest
      let (text, rest) ← readBasic fuel rest
      return (c :: text, rest)
    | c :: rest =>
      if isStringChar c then do
        let (text, rest) ← readBasic fuel rest
        return (c :: text, rest)
      else none
    | [] => none

/-- The text of a literal string after its opening quote. -/
def readLiteral (s : List Char) : Option (List Char × List Char) :=
  let text := s.takeWhile fun c => isStringChar c && c ≠ '\''
  match s.drop text.length with
  | '\'' :: rest => some (text, rest)
  | _ => none

/-- Blanks and line breaks after an escaped line break. -/
def skipFolded (s : List Char) : List Char :=
  s.dropWhile fun c => isBlank c || c = '\n'

/-- The number of quotes at the front of a text. -/
def quoteRun (quote : Char) (s : List Char) : Nat := (s.takeWhile (· = quote)).length

/-- The end of a multi-line string at a run of three quotes or more: up to two of them belong to the
text. -/
def closeTriple (quote : Char) (s : List Char) : List Char × List Char :=
  let inner := min (quoteRun quote s) 5 - 3
  (List.replicate inner quote, s.drop (inner + 3))

/-- The text of a multi-line basic string after its opening quotes. -/
def readTripleBasic : Nat → Reader (List Char)
  | 0, _ => none
  | fuel + 1, s =>
    match s with
    | '"' :: rest =>
      if 3 ≤ quoteRun '"' s then some (closeTriple '"' s)
      else do
        let (text, rest) ← readTripleBasic fuel rest
        return ('"' :: text, rest)
    | '\\' :: rest =>
      match readNewline (skipBlanks rest) with
      | some rest' => readTripleBasic fuel (skipFolded rest')
      | none => do
        let (c, rest) ← readEscape rest
        let (text, rest) ← readTripleBasic fuel rest
        return (c :: text, rest)
    | '\n' :: rest => do
      let (text, rest) ← readTripleBasic fuel rest
      return ('\n' :: text, rest)
    | c :: rest =>
      if isStringChar c then do
        let (text, rest) ← readTripleBasic fuel rest
        return (c :: text, rest)
      else none
    | [] => none

/-- The text of a multi-line literal string after its opening quotes. -/
def readTripleLiteral : Nat → Reader (List Char)
  | 0, _ => none
  | fuel + 1, s =>
    match s with
    | '\'' :: rest =>
      if 3 ≤ quoteRun '\'' s then some (closeTriple '\'' s)
      else do
        let (text, rest) ← readTripleLiteral fuel rest
        return ('\'' :: text, rest)
    | c :: rest =>
      if isStringChar c || c = '\n' then do
        let (text, rest) ← readTripleLiteral fuel rest
        return (c :: text, rest)
      else none
    | [] => none

/-- Line breaks inside a multi-line string are read as single line feeds. -/
def foldNewlines : List Char → List Char
  | '\r' :: '\n' :: rest => '\n' :: foldNewlines rest
  | c :: rest => c :: foldNewlines rest
  | [] => []

/-- The text after a line break, if there is one. -/
def skipNewline (s : List Char) : List Char := (readNewline s).getD s

/-- A string of any of the four kinds. -/
def readString (s : List Char) : Option (String × List Char) := do
  let (text, rest) ←
    match s with
    | '"' :: '"' :: '"' :: rest =>
      let body := foldNewlines rest
      readTripleBasic (body.length + 1) (skipNewline body)
    | '"' :: rest => readBasic (rest.length + 1) rest
    | '\'' :: '\'' :: '\'' :: rest =>
      let body := foldNewlines rest
      readTripleLiteral (body.length + 1) (skipNewline body)
    | '\'' :: rest => readLiteral rest
    | _ => none
  return (String.ofList text, rest)

/-! ## Keys -/

/-- The longest dotted key, and the deepest nesting of values, lie below this. -/
def depthLimit : Nat := 80

/-- A character of a bare key. -/
def isBareKeyChar (c : Char) : Bool := c.isAlphanum || c = '_' || c = '-'

/-- One part of a dotted key. -/
def readSimpleKey (s : List Char) : Option (String × List Char) :=
  match s with
  | '"' :: rest => (readBasic (rest.length + 1) rest).map fun r => (String.ofList r.1, r.2)
  | '\'' :: rest => (readLiteral rest).map fun r => (String.ofList r.1, r.2)
  | _ =>
    let key := s.takeWhile isBareKeyChar
    if key.isEmpty then none else some (String.ofList key, s.drop key.length)

/-- A dotted key of fewer than `fuel` parts, with the blanks around it. -/
def readKeyParts : Nat → Reader (List String)
  | 0, _ => none
  | fuel + 1, s => do
    let (key, s) ← readSimpleKey (skipBlanks s)
    match skipBlanks s with
    | '.' :: rest => do
      let (keys, rest) ← readKeyParts fuel rest
      return (key :: keys, rest)
    | rest => return ([key], rest)

/-- A dotted key, with the blanks around it. -/
def readKey : Reader (List String) := readKeyParts (depthLimit - 1)

/-! ## Numbers and dates -/

/-- Digits of a class, with single underscores between them; `fuel` bounds their number. -/
def readDigitRun (isDigit : Char → Bool) : Nat → Reader (List Char)
  | 0, _ => none
  | fuel + 1, s =>
    match s with
    | c :: rest =>
      if isDigit c then
        match rest with
        | '_' :: rest' => do
          let (digits, rest'') ← readDigitRun isDigit fuel rest'
          return (c :: digits, rest'')
        | d :: _ =>
          if isDigit d then do
            let (digits, rest'') ← readDigitRun isDigit fuel rest
            return (c :: digits, rest'')
          else some ([c], rest)
        | [] => some ([c], [])
      else none
    | [] => none

/-- Digits of a class, with single underscores between them. -/
def readDigits (isDigit : Char → Bool) (s : List Char) : Option (List Char × List Char) :=
  readDigitRun isDigit (s.length + 1) s

/-- A sign, if there is one. -/
def readSign : List Char → Bool × List Char
  | '+' :: rest => (false, rest)
  | '-' :: rest => (true, rest)
  | s => (false, s)

/-- The digits of a decimal integer after its sign: a lone zero, or digits that do not start with
one. -/
def readDecimalDigits (s : List Char) : Option (List Char × List Char) :=
  match s with
  | '0' :: rest => some (['0'], rest)
  | _ => readDigits Char.isDigit s

/-- The first number above the integers of 64 bits. -/
def integerBound : Nat := 9223372036854775808

/-- The integer with a sign and a magnitude, if it fits in 64 bits. -/
def integer? (negative : Bool) (n : Nat) : Option Int :=
  if negative then if n ≤ integerBound then some (-(n : Int)) else none
  else if n < integerBound then some (n : Int) else none

/-- The value of digits in a base. -/
def ofBase (base : Nat) (digits : List Char) : Nat :=
  digits.foldl (fun n c => base * n + (Text.hexValue? c).getD 0) 0

/-- An integer. -/
def readInteger (s : List Char) : Option (Int × List Char) :=
  match s with
  | '0' :: 'x' :: rest => do
    let (digits, rest) ← readDigits (fun c => (Text.hexValue? c).isSome) rest
    return (← integer? false (ofBase 16 digits), rest)
  | '0' :: 'o' :: rest => do
    let (digits, rest) ← readDigits (fun c => '0' ≤ c && c ≤ '7') rest
    return (← integer? false (ofBase 8 digits), rest)
  | '0' :: 'b' :: rest => do
    let (digits, rest) ← readDigits (fun c => c = '0' || c = '1') rest
    return (← integer? false (ofBase 2 digits), rest)
  | _ => do
    let (negative, s) := readSign s
    let (digits, rest) ← readDecimalDigits s
    return (← integer? negative (ofBase 10 digits), rest)

/-- The power of ten of a float, if there is one. -/
def readPower (s : List Char) : Option (Option Int × List Char) :=
  match s with
  | 'e' :: rest | 'E' :: rest => do
    let (negative, rest) := readSign rest
    let (digits, rest) ← readDigits Char.isDigit rest
    let n : Int := ofBase 10 digits
    return (some (if negative then -n else n), rest)
  | _ => some (none, s)

/-- A float, of which only the text matters; a positive one must be finite unless it is spelled as
infinite. The inner option is empty when there is no float here. -/
def readFloat (s : List Char) : Option (Option (List Char)) :=
  let (negative, unsigned) := readSign s
  match unsigned with
  | 'i' :: 'n' :: 'f' :: rest | 'n' :: 'a' :: 'n' :: rest => some (some rest)
  | _ =>
    match readDecimalDigits unsigned with
    | none => some none
    | some (whole, rest) =>
      match rest with
      | '.' :: rest => do
        let (fraction, rest) ← readDigits Char.isDigit rest
        let (power, rest) ← readPower rest
        let power := power.getD 0 - fraction.length
        if !negative && Text.exceedsDouble (whole ++ fraction) power then none
        else some (some rest)
      | 'e' :: _ | 'E' :: _ => do
        let (power, rest) ← readPower rest
        if !negative && Text.exceedsDouble whole (power.getD 0) then none else some (some rest)
      | _ => some none

/-- A number of exactly `width` digits. -/
def readFixed (width : Nat) (s : List Char) : Option (Nat × List Char) :=
  Instant.readDigits width width s

/-- The text after a time of day, if it is one. -/
def readTime (s : List Char) : Option (List Char) := do
  let (hour, s) ← readFixed 2 s
  let s ← Instant.readChar ':' s
  let (minute, s) ← readFixed 2 s
  let s ← Instant.readChar ':' s
  let (second, s) ← readFixed 2 s
  if hour ≤ 23 ∧ minute ≤ 59 ∧ second ≤ 60 then
    match s with
    | '.' :: rest =>
      if (rest.takeWhile Char.isDigit).isEmpty then none else some (rest.dropWhile Char.isDigit)
    | _ => some s
  else none

/-- The text after an offset from UTC, if there is one. -/
def skipOffset (s : List Char) : Option (List Char) :=
  match s with
  | 'Z' :: rest | 'z' :: rest => some rest
  | '+' :: rest | '-' :: rest => do
    let (hour, rest) ← readFixed 2 rest
    let rest ← Instant.readChar ':' rest
    let (minute, rest) ← readFixed 2 rest
    if hour ≤ 23 ∧ minute ≤ 59 then some rest else none
  | _ => some s

/-- The text after a date, if it is one of the calendar. -/
def readDate (s : List Char) : Option (List Char) := do
  let (year, s) ← readFixed 4 s
  let s ← Instant.readChar '-' s
  let (month, s) ← readFixed 2 s
  let s ← Instant.readChar '-' s
  let (day, s) ← readFixed 2 s
  if 1 ≤ month ∧ month ≤ 12 ∧ 1 ≤ day ∧ day ≤ Calendar.monthDays year month then some s else none

/-- Does a text start like a date or a time of day: four digits and a dash, or two digits and a
colon? -/
def looksDated (s : List Char) : Bool :=
  match readFixed 4 s with
  | some (_, '-' :: _) => true
  | _ =>
    match readFixed 2 s with
    | some (_, ':' :: _) => true
    | _ => false

/-- The text after a date, a date and time, or a time of day. -/
def readDatetime (s : List Char) : Option (List Char) :=
  match readFixed 4 s with
  | some (_, '-' :: _) => do
    let rest ← readDate s
    match rest with
    | c :: rest' =>
      if c = 'T' ∨ c = 't' ∨ c = ' ' then
        match readFixed 2 rest' with
        | some (_, ':' :: _) => skipOffset (← readTime rest')
        | _ => some rest
      else some rest
    | [] => some []
  | _ => readTime s

end Orchestrator.Toml
