import Orchestrator.Text.Percent

/-!
Reading UTF-8 that may be broken: what is no character becomes a replacement character, one for each
longest run of bytes that a character could have started with.
-/
namespace Orchestrator.Text

/-- What stands for bytes that are no character. -/
def replacement : Char := '\uFFFD'

/-- What follows a first byte of several: how many bytes, and the bounds of the first of them. -/
def continuation? (b : UInt8) : Option (Nat × UInt8 × UInt8) :=
  if 0xC2 ≤ b ∧ b ≤ 0xDF then some (1, 0x80, 0xBF)
  else if b = 0xE0 then some (2, 0xA0, 0xBF)
  else if b = 0xED then some (2, 0x80, 0x9F)
  else if 0xE1 ≤ b ∧ b ≤ 0xEF then some (2, 0x80, 0xBF)
  else if b = 0xF0 then some (3, 0x90, 0xBF)
  else if 0xF1 ≤ b ∧ b ≤ 0xF3 then some (3, 0x80, 0xBF)
  else if b = 0xF4 then some (3, 0x80, 0x8F)
  else none

/-- The number that the payload bits of a first byte write, when `n` bytes follow it. -/
def leadBits (n : Nat) (b : UInt8) : Nat := b.toNat % Nat.pow 2 (6 - n)

/-- The longest run of at most `n` following bytes, of which the first has bounds of its own. -/
def continuationRun (n : Nat) (low high : UInt8) : List UInt8 → List UInt8
  | [] => []
  | b :: rest =>
    if n ≠ 0 ∧ low ≤ b ∧ b ≤ high then b :: continuationRun (n - 1) 0x80 0xBF rest else []

/-- The character that starts with a byte, and how many of the bytes that follow belong to it. -/
def readChar (b : UInt8) (rest : List UInt8) : Char × Nat :=
  if b < 0x80 then (Char.ofNat b.toNat, 0)
  else
    match continuation? b with
    | none => (replacement, 0)
    | some (n, low, high) =>
      let run := continuationRun n low high rest
      (if run.length = n then
          Char.ofNat (run.foldl (fun v c => 64 * v + c.toNat % 64) (leadBits n b))
        else replacement,
        run.length)

/-- The text that bytes write. -/
def decodeLossy : List UInt8 → List Char
  | [] => []
  | b :: rest => (readChar b rest).1 :: decodeLossy (rest.drop (readChar b rest).2)
termination_by s => s.length

end Orchestrator.Text
