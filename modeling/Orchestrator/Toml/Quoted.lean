import Orchestrator.Text.Number

/-!
The written form of a string in a TOML document. The most readable form that can hold the text is
taken: a basic string, a literal string, a multi-line basic string, a multi-line literal string,
and only then one with escapes.
-/
namespace Orchestrator.Toml

/-- The longest run of a character in a text, where `current` of them stand in front of it. -/
def longestRun (c : Char) (current : Nat) : List Char → Nat
  | [] => current
  | d :: rest =>
    if d = c then longestRun c (current + 1) rest else max current (longestRun c 0 rest)

/-- Is the character a control that only an escape can write? -/
def isEscapeOnly (c : Char) : Bool :=
  c ≠ '\t' && c ≠ '\n' && (c.toNat < 0x20 || c.toNat = 0x7F)

/-- The hexadecimal digits of a number in upper case, four at least. -/
def upperHex4 (n : Nat) : List Char := (Text.hexPadded 4 n).map Char.toUpper

/-- The text of a basic string between its quotes. A line feed stands for itself in a multi-line
string, and so do quotes, as long as no more than two come together. -/
def escapeBasic (isMultiline : Bool) (quotes : Nat) : List Char → List Char
  | [] => []
  | c :: rest =>
    if c = '"' then
      if isMultiline ∧ quotes < 2 then '"' :: escapeBasic isMultiline (quotes + 1) rest
      else '\\' :: '"' :: escapeBasic isMultiline 0 rest
    else
      (if c = '\x08' then ['\\', 'b']
      else if c = '\t' then ['\\', 't']
      else if c = '\n' then if isMultiline then ['\n'] else ['\\', 'n']
      else if c = '\x0c' then ['\\', 'f']
      else if c = '\r' then ['\\', 'r']
      else if c = '\\' then ['\\', '\\']
      else if c.toNat < 0x20 ∨ c.toNat = 0x7F then ['\\', 'u'] ++ upperHex4 c.toNat
      else [c]) ++ escapeBasic isMultiline 0 rest

/-- The written form of a text. A multi-line string of several lines starts on a line of its
own. -/
def quoted (s : List Char) : List Char :=
  let doubles := longestRun '"' 0 s
  let singles := longestRun '\'' 0 s
  let hasBackslash := s.contains '\\'
  let hasNewline := s.contains '\n'
  let hasControl := s.any isEscapeOnly
  let opening := if hasNewline then ['\n'] else []
  let basic := '"' :: escapeBasic false 0 s ++ ['"']
  let tripleBasic := ['"', '"', '"'] ++ opening ++ escapeBasic true 0 s ++ ['"', '"', '"']
  if !hasControl ∧ !hasBackslash ∧ doubles = 0 ∧ !hasNewline then basic
  else if !hasControl ∧ singles = 0 ∧ !hasNewline then '\'' :: s ++ ['\'']
  else if !hasControl ∧ !hasBackslash ∧ doubles ≤ 2 then tripleBasic
  else if !hasControl ∧ singles ≤ 2 then
    ['\'', '\'', '\''] ++ opening ++ s ++ ['\'', '\'', '\'']
  else if hasNewline then tripleBasic
  else basic

end Orchestrator.Toml
