/-!
Whole numbers in decimal and hexadecimal.
-/
namespace Orchestrator.Text

/-- The decimal digits of a number, without leading zeros. -/
def decimal (n : Nat) : List Char := Nat.toDigits 10 n

/-- The number that decimal digits write. -/
def ofDecimal (digits : List Char) : Nat := Nat.ofDigitChars 10 digits 0

@[simp] theorem ofDecimal_decimal (n : Nat) : ofDecimal (decimal n) = n :=
  Nat.ofDigitChars_toDigits (by decide) (by decide)

theorem isDigit_of_mem_decimal {n : Nat} {c : Char} (h : c ∈ decimal n) : c.isDigit = true :=
  Nat.isDigit_of_mem_toDigits (by decide) (by decide) h

theorem decimal_ne_nil (n : Nat) : decimal n ≠ [] := Nat.toDigits_ne_nil

/-- The digits of a number, filled with zeros on the left up to a width. -/
def padded (width n : Nat) : List Char :=
  List.replicate (width - (decimal n).length) '0' ++ decimal n

/-- The value of a hexadecimal digit of either case. -/
def hexValue? (c : Char) : Option Nat :=
  if '0' ≤ c ∧ c ≤ '9' then some (c.toNat - '0'.toNat)
  else if 'a' ≤ c ∧ c ≤ 'f' then some (c.toNat - 'a'.toNat + 10)
  else if 'A' ≤ c ∧ c ≤ 'F' then some (c.toNat - 'A'.toNat + 10)
  else none

/-- The number that hexadecimal digits write, if they all are such digits. -/
def ofHex? (digits : List Char) : Option Nat :=
  digits.foldlM (fun n c => (hexValue? c).map (16 * n + ·)) 0

/-- The hexadecimal digits of a number in lower case, without leading zeros. -/
def hex (n : Nat) : List Char := Nat.toDigits 16 n

/-- Hexadecimal digits filled with zeros on the left up to a width. -/
def hexPadded (width n : Nat) : List Char :=
  List.replicate (width - (hex n).length) '0' ++ hex n

/-! ## Decimal numbers and binary doubles -/

/-- The least whole number that a binary double would round to infinity. It has 309 digits. -/
def doubleOverflow : Nat := Nat.pow 2 1024 - Nat.pow 2 970

/-- Is a number with these digits and this power of ten too large for a binary double? -/
def exceedsDouble (digits : List Char) (power : Int) : Bool :=
  let significand := ofDecimal digits
  if significand = 0 then false
  else if power ≥ 400 then true
  else if power ≥ 0 then significand * Nat.pow 10 power.toNat ≥ doubleOverflow
  else if power.natAbs ≥ digits.length then false
  else significand ≥ doubleOverflow * Nat.pow 10 power.natAbs

end Orchestrator.Text
