import Orchestrator.Proofs.Instant.Written
import Orchestrator.Proofs.Toml.Lines

/-!
# Written values

Whole numbers, truth values and strings are read back from how they are written, so lines can be made of
them: `isWritten_integer`, `isWritten_boolean`, `isWritten_string`. A number is no date, because neither
a dash nor a colon follows its digits, and no float.
-/
namespace Orchestrator.Toml

/-! ## Whole numbers -/

section
variable {digits : List Char} (hdigits : ∀ c ∈ digits, c.isDigit = true) (rest : List Char)
include hdigits

/-- Digits are read up to the end of the line. -/
theorem readDigits_line (hne : digits ≠ []) :
    readDigits Char.isDigit (digits ++ '\n' :: rest) = some (digits, '\n' :: rest) := by
  have run : ∀ {fuel : Nat} {digits : List Char}, (∀ c ∈ digits, c.isDigit = true) → digits ≠ [] →
      digits.length ≤ fuel →
      readDigitRun Char.isDigit fuel (digits ++ '\n' :: rest) = some (digits, '\n' :: rest) := by
    intro fuel digits hdigits hne hfuel
    induction digits generalizing fuel with
    | nil => exact absurd rfl hne
    | cons c digits ih =>
      obtain ⟨fuel, rfl⟩ := Nat.exists_eq_add_one_of_ne_zero (Nat.ne_zero_of_lt hfuel)
      obtain ⟨hc, hdigits⟩ := List.forall_mem_cons.1 hdigits
      cases digits with
      | nil => simp [readDigitRun, hc]
      | cons d digits =>
        have hd : d.isDigit = true := hdigits d List.mem_cons_self
        have hunderscore : d ≠ '_' := by
          rintro rfl
          exact absurd hd (by decide)
        have ih := ih hdigits (by simp) (Nat.le_of_succ_le_succ hfuel)
        rw [List.cons_append] at ih
        rw [List.cons_append, List.cons_append, readDigitRun, if_pos hc, if_pos hd, ih]
        · rfl
        · exact hunderscore
  refine run hdigits hne ?_
  rw [List.length_append]
  omega

theorem ofBase_ten : ofBase 10 digits = Text.ofDecimal digits := by
  have fold : ∀ n, digits.foldl (fun n c => 10 * n + (Text.hexValue? c).getD 0) n
      = Nat.ofDigitChars 10 digits n := by
    induction digits with
    | nil => exact fun _ => rfl
    | cons c digits ih =>
      obtain ⟨hc, hdigits⟩ := List.forall_mem_cons.1 hdigits
      have hvalue : Text.hexValue? c = some (c.toNat - '0'.toNat) := by
        have hbounds : '0' ≤ c ∧ c ≤ '9' := Text.toNat_of_isDigit hc
        rw [Text.hexValue?, if_pos hbounds]
      intro n
      rw [List.foldl_cons, ih hdigits, Nat.ofDigitChars_cons, hvalue]
      rfl
  exact fold 0

/-- After some of the digits comes another one, or the end of the line. -/
theorem isDigit_of_readFixed {width n : Nat} {c : Char} {t : List Char}
    (h : readFixed width (digits ++ '\n' :: rest) = some (n, c :: t)) :
    c.isDigit = true ∨ c = '\n' := by
  have hdrop : ∃ k ≤ digits.length, (digits ++ '\n' :: rest).drop k = c :: t := by
    unfold readFixed Instant.readDigits at h
    dsimp only at h
    split at h
    · cases h
    · refine ⟨_, ?_, (Prod.mk.inj (Option.some.inj h)).2⟩
      by_cases hwidth : width ≤ digits.length
      · have htake := List.length_take_le width (digits ++ '\n' :: rest)
        exact Nat.le_trans (Nat.le_trans (List.takeWhile_prefix _).length_le htake) hwidth
      · have hend : Instant.EndsDigits ('\n' :: rest) := by
          rintro c ⟨⟩
          rfl
        exact Nat.le_of_eq (congrArg List.length
          (Instant.takeWhile_take_digits hdigits (Nat.le_of_not_le hwidth) (.inr hend)))
  obtain ⟨k, hk, hdrop⟩ := hdrop
  rw [List.drop_append_of_le_length hk] at hdrop
  cases hleft : digits.drop k with
  | nil =>
    rw [hleft] at hdrop
    exact .inr (List.cons.inj hdrop).1.symm
  | cons d left =>
    rw [hleft] at hdrop
    have hd : d ∈ digits := List.mem_of_mem_drop (hleft ▸ List.mem_cons_self)
    exact .inl ((List.cons.inj hdrop).1 ▸ hdigits d hd)

/-- Digits are not the start of a date or a time of day. -/
theorem looksDated_line : looksDated (digits ++ '\n' :: rest) = false := by
  unfold looksDated
  split
  · rename_i h
    exact absurd (isDigit_of_readFixed hdigits rest h) (by decide)
  · split
    · rename_i h
      exact absurd (isDigit_of_readFixed hdigits rest h) (by decide)
    · rfl

end

section
variable (n : Nat) (rest : List Char)

/-- What starts with anything but a digit is another text. -/
theorem decimal_ne_cons {c : Char} (hc : c.isDigit = false) (t : List Char) :
    Text.decimal n ++ '\n' :: rest ≠ c :: t := by
  intro h
  obtain ⟨d, left, hdigits⟩ := List.exists_cons_of_ne_nil (Text.decimal_ne_nil n)
  have hd : d.isDigit = true := Text.isDigit_of_mem_decimal (hdigits ▸ List.mem_cons_self)
  rw [hdigits] at h
  rw [(List.cons.inj h).1, hc] at hd
  cases hd

/-- Only zero starts with one. -/
theorem eq_zero_of_decimal {t : List Char} (h : Text.decimal n ++ '\n' :: rest = '0' :: t) :
    n = 0 := by
  obtain ⟨d, left, hdigits⟩ := List.exists_cons_of_ne_nil (Text.decimal_ne_nil n)
  rw [hdigits] at h
  refine Classical.byContradiction fun hn => Text.head_decimal hn ?_
  rw [hdigits, (List.cons.inj h).1]
  rfl

theorem readDecimalDigits_line :
    readDecimalDigits (Text.decimal n ++ '\n' :: rest) = some (Text.decimal n, '\n' :: rest) := by
  by_cases hn : n = 0
  · subst hn
    rfl
  · rw [readDecimalDigits.eq_2]
    · exact readDigits_line (fun _ => Text.isDigit_of_mem_decimal) rest (Text.decimal_ne_nil n)
    · exact fun t h => hn (eq_zero_of_decimal n rest h)

theorem readSign_line : readSign (Text.decimal n ++ '\n' :: rest)
    = (false, Text.decimal n ++ '\n' :: rest) := by
  rw [readSign.eq_3]
  · exact fun t => decimal_ne_cons n rest rfl t
  · exact fun t => decimal_ne_cons n rest rfl t

theorem readFloat_line : readFloat (Text.decimal n ++ '\n' :: rest) = some none := by
  unfold readFloat
  rw [readSign_line]
  dsimp only
  rw [readDecimalDigits_line]
  split
  · rename_i h
    exact absurd h (decimal_ne_cons n rest rfl _)
  · rename_i h
    exact absurd h (decimal_ne_cons n rest rfl _)
  · rfl

/-- A leading zero stands alone. -/
theorem decimal_ne_zero_cons {c : Char} (hc : c ≠ '\n') (t : List Char) :
    Text.decimal n ++ '\n' :: rest ≠ '0' :: c :: t := by
  intro h
  obtain rfl := eq_zero_of_decimal n rest h
  exact hc (List.cons.inj (List.cons.inj h).2).1.symm

theorem readInteger_line (hn : n < integerBound) :
    readInteger (Text.decimal n ++ '\n' :: rest) = some ((n : Int), '\n' :: rest) := by
  have hvalue : ofBase 10 (Text.decimal n) = n := by
    rw [ofBase_ten fun _ => Text.isDigit_of_mem_decimal, Text.ofDecimal_decimal]
  rw [readInteger.eq_4 _ (fun t => decimal_ne_zero_cons n rest (by decide) t)
    (fun t => decimal_ne_zero_cons n rest (by decide) t)
    (fun t => decimal_ne_zero_cons n rest (by decide) t), readSign_line]
  simp only [readDecimalDigits_line, Option.bind_eq_bind, Option.bind_some, hvalue, integer?,
    Bool.false_eq_true, if_false, if_pos hn]
  rfl

theorem readScalar_line (hn : n < integerBound) :
    readScalar (Text.decimal n ++ '\n' :: rest) = some (.integer n, '\n' :: rest) := by
  have hdated : looksDated (Text.decimal n ++ '\n' :: rest) = false :=
    looksDated_line (fun _ => Text.isDigit_of_mem_decimal) rest
  have hne : ∀ {c : Char}, c.isDigit = false → ∀ t, Text.decimal n ++ '\n' :: rest ≠ c :: t :=
    fun hc => decimal_ne_cons n rest hc
  rw [readScalar.eq_7 _ (hne rfl) (hne rfl) (fun _ => hne rfl _) (fun _ => hne rfl _)
    (fun _ => hne rfl _) (fun _ => hne rfl _), hdated, readFloat_line, readInteger_line n rest hn]
  rfl

end

/-! ## Lines -/

/-- A value of one token is read as such. -/
theorem readValue_scalar {s : List Char} (hbracket : s.head? ≠ some '[')
    (hbrace : s.head? ≠ some '\x7b') (fuel depth : Nat) :
    readValue (fuel + 1) depth s = readScalar s := by
  unfold readValue
  split
  · exact absurd rfl hbracket
  · exact absurd rfl hbrace
  · rfl

/-- A line with a number that fits. -/
theorem isWritten_integer {key : String} (hkey : IsBare key) {n : Nat} (hn : n < integerBound) :
    Row.IsWritten ⟨key, Text.decimal n, .integer n⟩ where
  key := hkey
  cr h := absurd (Text.isDigit_of_mem_decimal h) (by decide)
  reads fuel rest _ := by
    obtain ⟨c, t, hdigits⟩ := List.exists_cons_of_ne_nil (Text.decimal_ne_nil n)
    have hc : c.isDigit = true := Text.isDigit_of_mem_decimal (hdigits ▸ List.mem_cons_self)
    have hne : ∀ {d : Char}, d.isDigit = false → (c :: (t ++ '\n' :: rest)).head? ≠ some d := by
      rintro d hd ⟨⟩
      rw [hc] at hd
      cases hd
    have hblank : isBlank c = false := by
      refine Bool.eq_false_iff.2 fun h => ?_
      simp only [isBlank, Bool.or_eq_true, decide_eq_true_eq] at h
      rcases h with rfl | rfl <;> cases hc
    have hread := readScalar_line n rest hn
    rw [hdigits] at hread
    show readValue _ _ (skipBlanks (Text.decimal n ++ _)) = _
    rw [hdigits, List.cons_append, skipBlanks_of_not_blank hblank, readValue_scalar (hne rfl) (hne rfl)]
    exact hread

/-- A line with a truth value. -/
theorem isWritten_boolean {key : String} (hkey : IsBare key) (b : Bool) :
    Row.IsWritten ⟨key, Settings.booleanText b, .boolean b⟩ where
  key := hkey
  cr := by
    show '\r' ∉ Settings.booleanText b
    cases b <;> decide
  reads fuel rest _ := by cases b <;> rfl

/-- Every form starts with a quote. -/
theorem exists_quoted_cons (s : List Char) :
    ∃ quote t, quoted s = quote :: t ∧ (quote = '"' ∨ quote = '\'') := by
  unfold quoted
  dsimp only
  repeat' split
  all_goals simp

/-- A line with a text. -/
theorem isWritten_string {key : String} (hkey : IsBare key) (s : String) :
    Row.IsWritten ⟨key, quoted s.toList, .string s⟩ where
  key := hkey
  cr := cr_notMem_quoted s.toList
  reads fuel rest hrest := by
    have hcr : '\r' ∉ '\n' :: rest := by simp [hrest]
    have hread : readString (quoted s.toList ++ '\n' :: rest)
        = some (String.ofList s.toList, '\n' :: rest) :=
      readString_quoted s.toList (by simp) (by simp) hcr
    obtain ⟨quote, t, hquoted, hquote⟩ := exists_quoted_cons s.toList
    show readValue _ _ (skipBlanks (quoted s.toList ++ _)) = _
    rw [hquoted, List.cons_append] at hread ⊢
    rcases hquote with rfl | rfl
    · rw [skipBlanks_of_not_blank rfl, readValue_scalar (by simp) (by simp), readScalar, hread]
      simp
    · rw [skipBlanks_of_not_blank rfl, readValue_scalar (by simp) (by simp), readScalar, hread]
      simp

end Orchestrator.Toml
