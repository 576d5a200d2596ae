import Mathlib.Algebra.Group.Nat.Defs
import Orchestrator.Text.Blank
import Orchestrator.Text.Number

/-!
# Decimal digits

Digits filled with zeros up to a width write the number still, have just that width if the number fits
(`length_padded`), and of two numbers that fit the lesser one's digits come first: `padded_append_lt`.
-/
namespace Orchestrator.Text

/-! ## What they write -/

theorem isDigit_of_mem_padded {width n : Nat} {c : Char} (h : c ∈ padded width n) :
    c.isDigit = true := by
  rcases List.mem_append.1 h with h | h
  · rw [(List.mem_replicate.1 h).2]
    rfl
  · exact isDigit_of_mem_decimal h

theorem ofDecimal_zeros (m : Nat) (digits : List Char) :
    ofDecimal (List.replicate m '0' ++ digits) = ofDecimal digits := by
  induction m with
  | zero => rfl
  | succ m ih =>
    rw [List.replicate_succ, List.cons_append]
    exact ih

@[simp] theorem ofDecimal_padded (width n : Nat) : ofDecimal (padded width n) = n := by
  rw [padded, ofDecimal_zeros, ofDecimal_decimal]

theorem length_decimal_le {width n : Nat} (hwidth : 0 < width) (h : n < 10 ^ width) :
    (decimal n).length ≤ width :=
  (Nat.length_toDigits_le_iff (by decide) hwidth).2 h

theorem length_padded {width n : Nat} (hwidth : 0 < width) (h : n < 10 ^ width) :
    (padded width n).length = width := by
  have := length_decimal_le hwidth h
  rw [padded, List.length_append, List.length_replicate]
  omega

theorem le_length_padded (width n : Nat) : width ≤ (padded width n).length := by
  rw [padded, List.length_append, List.length_replicate]
  omega

/-- Something is written, and it starts with a digit. -/
theorem exists_padded_cons {width : Nat} (hwidth : 0 < width) (n : Nat) :
    ∃ c digits, padded width n = c :: digits ∧ c.isDigit = true := by
  have hlen := le_length_padded width n
  cases hdigits : padded width n with
  | nil =>
    rw [hdigits, List.length_nil] at hlen
    omega
  | cons c digits =>
    exact ⟨c, digits, rfl, isDigit_of_mem_padded (hdigits ▸ List.mem_cons_self)⟩

/-- Decimal digits have no leading zero. -/
theorem head_decimal {n : Nat} (hn : n ≠ 0) : (decimal n).head? ≠ some '0' := by
  induction n using Nat.strongRecOn with
  | ind n ih =>
    unfold decimal at *
    by_cases hlt : n < 10
    · have hdigit : ∀ n < 10, n ≠ 0 → Nat.digitChar n ≠ '0' := by decide
      rw [Nat.toDigits_of_lt_base hlt]
      simpa using hdigit n hlt hn
    · have hfirst := ih (n / 10) (by omega) (by omega)
      rw [Nat.toDigits_of_base_le (by omega) (by omega), List.head?_append]
      cases hhead : (Nat.toDigits 10 (n / 10)).head? with
      | none => exact absurd (List.head?_eq_none_iff.1 hhead) Nat.toDigits_ne_nil
      | some c => rw [hhead] at hfirst; exact hfirst

theorem toNat_of_isDigit {c : Char} (h : c.isDigit = true) : 48 ≤ c.toNat ∧ c.toNat ≤ 57 := by
  simp only [Char.isDigit, Bool.and_eq_true, decide_eq_true_eq] at h
  exact h

theorem isBlank_of_isDigit {c : Char} (h : c.isDigit = true) : isBlank c = false := by
  have := toNat_of_isDigit h
  simp only [isBlank, Bool.or_eq_false_iff, Bool.and_eq_false_iff, decide_eq_false_iff_not,
    beq_eq_false_iff_ne]
  omega

/-! ## Their order -/

/-- A greater start outweighs all digits that follow. -/
theorem ofDigitChars_lt {digits digits' : List Char} (hlen : digits.length = digits'.length)
    (hdigits : ∀ c ∈ digits, c.isDigit = true) {m n : Nat} (h : m < n) :
    Nat.ofDigitChars 10 digits m < Nat.ofDigitChars 10 digits' n := by
  induction digits generalizing digits' m n with
  | nil =>
    rw [List.eq_nil_of_length_eq_zero hlen.symm]
    exact h
  | cons c digits ih =>
    obtain ⟨c', digits', rfl⟩ := List.exists_cons_of_length_eq_add_one hlen.symm
    have hc := toNat_of_isDigit (hdigits c List.mem_cons_self)
    have hzero : ('0' : Char).toNat = 48 := rfl
    rw [Nat.ofDigitChars_cons, Nat.ofDigitChars_cons]
    apply ih (by simpa using hlen) fun d hd => hdigits d (List.mem_cons_of_mem _ hd)
    omega

/-- Of two numbers with as many digits the lesser one's digits come first. -/
theorem lt_of_ofDigitChars_lt {digits digits' : List Char} (hlen : digits.length = digits'.length)
    (hdigits : ∀ c ∈ digits, c.isDigit = true) (hdigits' : ∀ c ∈ digits', c.isDigit = true) {n : Nat}
    (h : Nat.ofDigitChars 10 digits n < Nat.ofDigitChars 10 digits' n) : digits < digits' := by
  induction digits generalizing digits' n with
  | nil =>
    rw [List.eq_nil_of_length_eq_zero hlen.symm] at h
    exact absurd h (Nat.lt_irrefl _)
  | cons c digits ih =>
    obtain ⟨c', digits', rfl⟩ := List.exists_cons_of_length_eq_add_one hlen.symm
    have hc := toNat_of_isDigit (hdigits c List.mem_cons_self)
    have hc' := toNat_of_isDigit (hdigits' c' List.mem_cons_self)
    have hzero : ('0' : Char).toNat = 48 := rfl
    rw [Nat.ofDigitChars_cons, Nat.ofDigitChars_cons] at h
    rw [List.cons_lt_cons_iff]
    rcases Nat.lt_trichotomy c.toNat c'.toNat with hlt | heq | hgt
    · exact .inl hlt
    · right
      rw [heq] at h
      refine ⟨Char.toNat_inj.1 heq, ih (by simpa using hlen) ?_ ?_ h⟩
      · exact fun d hd => hdigits d (List.mem_cons_of_mem _ hd)
      · exact fun d hd => hdigits' d (List.mem_cons_of_mem _ hd)
    · have := ofDigitChars_lt (by simpa using hlen.symm)
        (fun d hd => hdigits' d (List.mem_cons_of_mem _ hd))
        (by omega : 10 * n + (c'.toNat - '0'.toNat) < 10 * n + (c.toNat - '0'.toNat))
      omega

theorem append_lt_append {l l' : List Char} (hlen : l.length = l'.length) (h : l < l')
    (r r' : List Char) : l ++ r < l' ++ r' := by
  induction l generalizing l' with
  | nil =>
    rw [List.eq_nil_of_length_eq_zero hlen.symm] at h
    exact absurd h (List.lt_irrefl _)
  | cons c l ih =>
    obtain ⟨c', l', rfl⟩ := List.exists_cons_of_length_eq_add_one hlen.symm
    rw [List.cons_lt_cons_iff] at h
    rw [List.cons_append, List.cons_append, List.cons_lt_cons_iff]
    rcases h with h | ⟨rfl, h⟩
    · exact .inl h
    · exact .inr ⟨rfl, ih (by simpa using hlen) h⟩

/-- A text does not come before its own start. -/
theorem not_append_lt (l r : List Char) : ¬ l ++ r < l := by
  induction l with
  | nil => exact List.not_lt_nil _
  | cons c l ih =>
    rw [List.cons_append, List.cons_lt_cons_iff]
    rintro (h | ⟨-, h⟩)
    · exact Nat.lt_irrefl _ h
    · exact ih h

/-- Of two numbers written with as many digits the lesser one comes first, whatever follows. -/
theorem padded_append_lt {width m n : Nat} (hlen : (padded width m).length = (padded width n).length)
    (h : m < n) (r r' : List Char) : padded width m ++ r < padded width n ++ r' := by
  apply append_lt_append hlen
  apply lt_of_ofDigitChars_lt hlen (fun _ => isDigit_of_mem_padded) fun _ => isDigit_of_mem_padded
  have hm : Nat.ofDigitChars 10 (padded width m) 0 = m := ofDecimal_padded width m
  have hn : Nat.ofDigitChars 10 (padded width n) 0 = n := ofDecimal_padded width n
  rw [hm, hn]
  exact h

end Orchestrator.Text
