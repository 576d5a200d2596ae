import Orchestrator.Text.Number
import Orchestrator.Text.PrintableTable

/-!
The quoted form of a text in messages: between double quotes, with everything that would not show,
or would attach to the character before it, written as an escape.
-/
namespace Orchestrator.Text

/-- How one character of a quoted text is written. -/
def quoteChar (c : Char) : List Char :=
  if c = '\x00' then ['\\', '0']
  else if c = '\t' then ['\\', 't']
  else if c = '\r' then ['\\', 'r']
  else if c = '\n' then ['\\', 'n']
  else if c = '"' then ['\\', '"']
  else if c = '\\' then ['\\', '\\']
  else if graphemeExtendRanges.has c || unprintableRanges.has c then
    ['\\', 'u', '\x7b'] ++ hex c.toNat ++ ['\x7d']
  else [c]

/-- The text between double quotes, escaped. -/
def quoted (s : String) : String :=
  String.ofList (['"'] ++ s.toList.flatMap quoteChar ++ ['"'])

end Orchestrator.Text
