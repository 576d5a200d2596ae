import Orchestrator.Text.Number

/-!
Percent encoding: a byte as a percent sign and two hexadecimal digits.
-/
namespace Orchestrator.Text

/-- The bytes of a text. -/
def utf8 (s : List Char) : List UInt8 := (String.ofList s).toUTF8.toList

/-- A byte as a percent sign and two digits in upper case. -/
def percentByte (b : UInt8) : List Char := '%' :: (hexPadded 2 b.toNat).map Char.toUpper

/-- The text with the characters of a class, and all that are not ASCII, encoded. -/
def percentEncode (encoded : Char → Bool) (s : List Char) : List Char :=
  s.flatMap fun c =>
    if encoded c || c.toNat < 0x20 || c.toNat > 0x7e then (utf8 [c]).flatMap percentByte else [c]

/-- The bytes of a text with what is encoded decoded; a percent sign without two digits stands for
itself. -/
def percentDecode : List Char → List UInt8
  | '%' :: a :: b :: rest =>
    match hexValue? a, hexValue? b with
    | some x, some y => UInt8.ofNat (16 * x + y) :: percentDecode rest
    | _, _ => '%'.toUInt8 :: percentDecode (a :: b :: rest)
  | c :: rest => utf8 [c] ++ percentDecode rest
  | [] => []
termination_by s => s.length

end Orchestrator.Text
