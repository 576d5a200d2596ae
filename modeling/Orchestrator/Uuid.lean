import Orchestrator.Text.Number

/-!
Universally unique identifiers: 128 bits, written as 32 hexadecimal digits in five groups. Reading
also takes the digits without hyphens, the grouped form in braces and the grouped form as a URN, in
either case.
-/
namespace Orchestrator

/-- A universally unique identifier. -/
structure Uuid where
  bits : BitVec 128
  deriving DecidableEq, Repr

namespace Uuid

instance : Inhabited Uuid := ⟨⟨0⟩⟩

/-- The 32 hexadecimal digits. -/
def digits (u : Uuid) : List Char := Text.hexPadded 32 u.bits.toNat

/-- The written form: groups of 8, 4, 4, 4 and 12 digits. -/
def render (u : Uuid) : String :=
  let d := u.digits
  String.ofList (d.take 8 ++ '-' :: (d.drop 8).take 4 ++ '-' :: (d.drop 12).take 4
    ++ '-' :: (d.drop 16).take 4 ++ '-' :: d.drop 20)

/-- The identifier with the given 32 digits. -/
def ofDigits? (d : List Char) : Option Uuid :=
  if d.length = 32 then (Text.ofHex? d).map fun n => ⟨BitVec.ofNat 128 n⟩ else none

/-- The identifier with the given digits in five groups. -/
def ofGroups? (s : List Char) : Option Uuid :=
  if s.length = 36 ∧ s[8]? = some '-' ∧ s[13]? = some '-' ∧ s[18]? = some '-' ∧ s[23]? = some '-'
  then
    ofDigits? (s.take 8 ++ (s.drop 9).take 4 ++ (s.drop 14).take 4 ++ (s.drop 19).take 4
      ++ s.drop 24)
  else none

/-- The identifier that a text writes. -/
def ofText? (text : String) : Option Uuid :=
  match text.toList with
  | '\x7b' :: rest =>
    if rest.getLast? = some '\x7d' then ofGroups? rest.dropLast else none
  | 'u' :: 'r' :: 'n' :: ':' :: 'u' :: 'u' :: 'i' :: 'd' :: ':' :: rest => ofGroups? rest
  | s => if s.length = 32 then ofDigits? s else ofGroups? s

end Uuid

end Orchestrator
