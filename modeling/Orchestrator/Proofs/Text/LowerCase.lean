import Orchestrator.Text.Case

/-!
# Lower case in parts

Whether a sigma ends a word depends on what follows it, so the lower case of a text is not put together
from that of its parts. A dash ends a word: what starts with a dash has no say in the lower case of what
stands before it (`lowerAfter_append_dash`). And a text of characters that lower case leaves alone is
its own lower case (`lowerAfter_eq_self`).
-/
namespace Orchestrator.Text

/-- A set of characters is looked through range by range, for the code point. -/
theorem Ranges.has_eq_any {ranges : Ranges} {c : Char} {n : Nat} (h : c.toNat = n) :
    ranges.has c = ranges.toList.any fun range => range.1 ≤ n && n ≤ range.2 := by
  rw [has, ← Array.any_toList, h]

/-- A dash is not passed over inside a word, and is not cased. -/
theorem has_dash : caseIgnorableRanges.has '-' = false ∧ casedRanges.has '-' = false := by
  -- with the code point written out, each comparison is one of numerals
  have hcode : '-'.toNat = 45 := rfl
  rw [Ranges.has_eq_any hcode, Ranges.has_eq_any hcode]
  decide +kernel

/-- A dash ends a word, so no cased character is met behind one. -/
theorem meetsCased_append_dash (s t : List Char) : meetsCased (s ++ '-' :: t) = meetsCased s := by
  induction s with
  | nil =>
    have hstop : ('-' :: t).dropWhile caseIgnorableRanges.has = '-' :: t := by
      rw [List.dropWhile_cons, has_dash.1, if_neg Bool.false_ne_true]
    rw [List.nil_append, meetsCased, hstop]
    exact has_dash.2
  | cons c s ih =>
    cases hc : caseIgnorableRanges.has c with
    | true => simpa [meetsCased, hc] using ih
    | false => simp [meetsCased, hc]

/-- The lower case of a text before a dash is its own. -/
theorem lowerAfter_append_dash (before s t : List Char) :
    lowerAfter before (s ++ '-' :: t)
      = lowerAfter before s ++ lowerAfter (s.reverse ++ before) ('-' :: t) := by
  induction s generalizing before with
  | nil => rfl
  | cons c s ih =>
    simp only [List.cons_append, lowerAfter, meetsCased_append_dash, ih, List.reverse_cons,
      List.append_assoc, List.nil_append]

/-- Characters that are their own lower case, none of them a sigma, are left alone wherever they stand. -/
theorem lowerAfter_eq_self {s : List Char} (before : List Char)
    (h : ∀ c ∈ s, c.toNat ≠ 0x3A3 ∧ lowerChar c = [c]) : lowerAfter before s = s := by
  induction s generalizing before with
  | nil => rfl
  | cons c s ih =>
    obtain ⟨hsigma, hc⟩ := h c List.mem_cons_self
    rw [lowerAfter, if_neg hsigma, hc, ih _ fun d hd => h d (List.mem_cons_of_mem _ hd)]
    rfl

end Orchestrator.Text
