/-!
Blank characters and trimming. A character is blank when it has the Unicode property White_Space,
which takes in the no-break space and the ideographic space but not the zero-width space.
-/
namespace Orchestrator.Text

/-- Does the character have the Unicode property White_Space? -/
def isBlank (c : Char) : Bool :=
  (0x09 ≤ c.toNat && c.toNat ≤ 0x0D) || c.toNat == 0x20 || c.toNat == 0x85 || c.toNat == 0xA0
    || c.toNat == 0x1680 || (0x2000 ≤ c.toNat && c.toNat ≤ 0x200A) || c.toNat == 0x2028
    || c.toNat == 0x2029 || c.toNat == 0x202F || c.toNat == 0x205F || c.toNat == 0x3000

/-- `dropEndWhile p s` is `s` without the longest suffix whose elements satisfy `p`. -/
def dropEndWhile {α : Type} (p : α → Bool) (s : List α) : List α :=
  (s.reverse.dropWhile p).reverse

/-- The text without the blank characters around it. -/
def trim (s : List Char) : List Char :=
  dropEndWhile isBlank (s.dropWhile isBlank)

/-- Does the text hold blank characters only? -/
def isBlankText (s : String) : Bool := s.toList.all isBlank

theorem dropWhile_eq_nil_iff_all {α : Type} (p : α → Bool) (s : List α) :
    s.dropWhile p = [] ↔ s.all p = true := by
  induction s with
  | nil => simp
  | cons a s ih => by_cases h : p a <;> simp [List.dropWhile, h, ih]

/-- A text is blank exactly when nothing is left of it once it is trimmed. -/
theorem trim_eq_nil_iff (s : List Char) : trim s = [] ↔ s.all isBlank = true := by
  rw [← dropWhile_eq_nil_iff_all, trim, dropEndWhile, List.reverse_eq_nil_iff,
    dropWhile_eq_nil_iff_all, List.all_reverse]
  constructor
  · intro h
    match hs : s.dropWhile isBlank with
    | [] => rfl
    | c :: r =>
      have hc : isBlank c = false := by
        have := @List.head_dropWhile_not _ isBlank s (by simp [hs])
        simpa [hs] using this
      simp [hs, hc] at h
  · intro h
    simp [h]

end Orchestrator.Text
