import Orchestrator.Proofs.Instant.Calendar
import Orchestrator.Proofs.Text.Decimal

/-!
# Times are read as they were written

Every point in time is written so that it can be read back, leap seconds and years of any length
included: `ofText?_render`.
-/
namespace Orchestrator.Instant

open Calendar

/-! ## Digits and what follows them -/

/-- The text does not go on with a digit. -/
def EndsDigits (rest : List Char) : Prop := ∀ c ∈ rest.head?, c.isDigit = false

theorem takeWhile_digits {digits rest : List Char} (hdigits : ∀ c ∈ digits, c.isDigit = true)
    (hrest : EndsDigits rest) : (digits ++ rest).takeWhile Char.isDigit = digits := by
  rw [List.takeWhile_append_of_pos hdigits]
  cases rest with
  | nil => simp
  | cons c rest =>
    rw [List.takeWhile_cons_of_neg (by simp [hrest c rfl]), List.append_nil]

/-- As many digits as are asked for are taken, and fewer if the digits end. -/
theorem takeWhile_take_digits {high : Nat} {digits rest : List Char}
    (hdigits : ∀ c ∈ digits, c.isDigit = true) (hhigh : digits.length ≤ high)
    (hrest : digits.length = high ∨ EndsDigits rest) :
    ((digits ++ rest).take high).takeWhile Char.isDigit = digits := by
  rw [List.take_append, List.take_of_length_le hhigh]
  apply takeWhile_digits hdigits
  rcases hrest with hfull | hrest
  · rw [hfull, Nat.sub_self, List.take_zero]
    intro c hc
    cases hc
  · intro c hc
    rw [List.head?_take] at hc
    split at hc
    · cases hc
    · exact hrest c hc

theorem readDigits_digits {low high : Nat} {digits rest : List Char}
    (hdigits : ∀ c ∈ digits, c.isDigit = true) (hlow : low ≤ digits.length)
    (hhigh : digits.length ≤ high) (hrest : digits.length = high ∨ EndsDigits rest) :
    readDigits low high (digits ++ rest) = some (Text.ofDecimal digits, rest) := by
  simp only [readDigits, takeWhile_take_digits hdigits hhigh hrest]
  rw [if_neg (by omega), List.drop_left]

/-! ## Parts of a time -/

theorem skipBlank_cons {c : Char} (hc : Text.isBlank c = false) (rest : List Char) :
    skipBlank (c :: rest) = c :: rest := by
  rw [skipBlank, List.dropWhile_cons_of_neg (by simp [hc])]

/-- There are no blanks before digits. -/
theorem skipBlank_padded {width : Nat} (hwidth : 0 < width) (n : Nat) (rest : List Char) :
    skipBlank (Text.padded width n ++ rest) = Text.padded width n ++ rest := by
  obtain ⟨c, digits, hdigits, hc⟩ := Text.exists_padded_cons hwidth n
  rw [hdigits, List.cons_append, skipBlank_cons (Text.isBlank_of_isDigit hc)]

/-- A part of two digits is read up to its end. -/
theorem readPart {n : Nat} (hn : n < 100) (rest : List Char) :
    readDigits 1 2 (skipBlank (Text.padded 2 n ++ rest)) = some (n, rest) := by
  have hlen := Text.length_padded (by decide : 0 < 2) hn
  rw [skipBlank_padded (by decide), readDigits_digits (fun _ => Text.isDigit_of_mem_padded)
    (by omega) (by omega) (.inl hlen), Text.ofDecimal_padded]

theorem readChar_cons (c : Char) (rest : List Char) : readChar c (c :: rest) = some rest := by
  simp [readChar]

/-- The sign between two parts is read. -/
theorem readSign {c : Char} (hc : Text.isBlank c = false) (rest : List Char) :
    readChar c (skipBlank (c :: rest)) = some rest := by
  rw [skipBlank_cons hc, readChar_cons]

theorem readYear_plain {year : Nat} (hyear : year < 10000) (rest : List Char) :
    readYear (Text.padded 4 year ++ rest) = some ((year : Int), rest) := by
  obtain ⟨c, digits, hdigits, hc⟩ := Text.exists_padded_cons (by decide : 0 < 4) year
  have hlen := Text.length_padded (by decide : 0 < 4) hyear
  have hread : readDigits 1 4 (Text.padded 4 year ++ rest) = some (year, rest) := by
    rw [readDigits_digits (fun _ => Text.isDigit_of_mem_padded) (by omega) (by omega) (.inl hlen),
      Text.ofDecimal_padded]
  have hminus : c ≠ '-' := by
    rintro rfl
    cases hc
  have hplus : c ≠ '+' := by
    rintro rfl
    cases hc
  unfold readYear
  split
  · rename_i h
    rw [hdigits] at h
    exact absurd (List.cons.inj h).1 hminus
  · rename_i h
    rw [hdigits] at h
    exact absurd (List.cons.inj h).1 hplus
  · rw [hread]
    rfl

/-- The digits after a sign end where the digits end. -/
theorem readDigits_signed (year : Nat) {rest : List Char} (hrest : EndsDigits rest) :
    readDigits 1 (Text.padded 4 year ++ rest).length (Text.padded 4 year ++ rest)
      = some (year, rest) := by
  have hlen := Text.le_length_padded 4 year
  rw [readDigits_digits (fun _ => Text.isDigit_of_mem_padded) (by omega)
    (by rw [List.length_append]; omega) (.inr hrest), Text.ofDecimal_padded]

/-- A year is read up to the dash after it. -/
theorem readYear_renderYear (year : Int) (rest : List Char) :
    readYear (skipBlank (renderYear year ++ '-' :: rest)) = some (year, '-' :: rest) := by
  have hdash : EndsDigits ('-' :: rest) := by
    intro c hc
    cases hc
    rfl
  unfold renderYear
  split
  · have hyear : (year.toNat : Int) = year := by omega
    rw [skipBlank_padded (by decide), readYear_plain (by omega), hyear]
  · by_cases hneg : year < 0
    · have hyear : -(year.natAbs : Int) = year := by omega
      rw [if_pos hneg, List.cons_append, skipBlank_cons (by decide), readYear,
        readDigits_signed _ hdash, Option.map_some, hyear]
    · have hyear : (year.natAbs : Int) = year := by omega
      rw [if_neg hneg, List.cons_append, skipBlank_cons (by decide), readYear,
        readDigits_signed _ hdash, Option.map_some, hyear]

/-- The fraction of a second is read up to the letter after it. -/
theorem readFraction_renderFraction {nano : Nat} (hnano : nano < 1000000000) (rest : List Char) :
    readFraction (renderFraction nano ++ 'Z' :: rest) = some (nano, 'Z' :: rest) := by
  have hread : ∀ width n, width ≤ 9 → 0 < width → n < 10 ^ width →
      readFraction ('.' :: Text.padded width n ++ 'Z' :: rest)
        = some (n * 10 ^ (9 - width), 'Z' :: rest) := by
    intro width n hnine hwidth hn
    have hends : EndsDigits ('Z' :: rest) := by
      intro c hc
      cases hc
      rfl
    have hdigits : ∀ c ∈ Text.padded width n, c.isDigit = true := fun _ =>
      Text.isDigit_of_mem_padded
    have hlen := Text.length_padded hwidth hn
    have htake := takeWhile_take_digits hdigits (by omega : _ ≤ 9) (.inr hends)
    have hdrop : (Text.padded width n ++ 'Z' :: rest).dropWhile Char.isDigit = 'Z' :: rest := by
      rw [List.dropWhile_append_of_pos hdigits, List.dropWhile_cons_of_neg (by decide)]
    have hsome : (Text.padded width n).isEmpty = false := by
      rw [List.isEmpty_eq_false_iff]
      intro hnil
      rw [hnil, List.length_nil] at hlen
      omega
    rw [List.cons_append, readFraction]
    simp only [htake, hsome, hdrop, hlen, Text.ofDecimal_padded]
    rfl
  unfold renderFraction
  split
  · subst_vars
    rfl
  split
  · rw [hread 3 _ (by decide) (by decide) (by omega)]
    congr 2
    omega
  split
  · rw [hread 6 _ (by decide) (by decide) (by omega)]
    congr 2
    omega
  · rw [hread 9 _ (by decide) (by decide) hnano]
    simp

/-! ## Whole times -/

/-- The last year of the calendar and the first are the years of its last day and its first. -/
theorem year_mem (t : Instant) :
    minYear ≤ (Date.ofDays t.days).year ∧ (Date.ofDays t.days).year ≤ maxYear := by
  have hmin : Date.ofDays minDays = ⟨minYear, 1, 1⟩ := by decide
  have hmax : Date.ofDays maxDays = ⟨maxYear, 12, 31⟩ := by decide
  have hlow := year_mono t.minDays_le
  have hhigh := year_mono t.le_maxDays
  rw [hmin] at hlow
  rw [hmax] at hhigh
  exact ⟨hlow, hhigh⟩

/-- What the written form of a time gives when it is read. -/
def reading (t : Instant) : Reading where
  date := Date.ofDays t.days
  hour := t.second / 3600
  minute := t.second / 60 % 60
  second := t.second % 60 + t.nano / 1000000000
  nano := t.nano % 1000000000
  offset := 0

theorem ofParts?_self (t : Instant) : ofParts? t.days t.second t.nano = some t := by
  rw [ofParts?, dif_pos ⟨t.minDays_le, t.le_maxDays, t.second_lt, t.nano_lt, t.leap_last⟩]

theorem toInstant?_reading (t : Instant) : t.reading.toInstant? = some t := by
  obtain ⟨hmin, hmax⟩ := t.year_mem
  obtain ⟨⟨hmonth, hmonth'⟩, hday, hday'⟩ := exists_ofDays t.days
  have hsecond := t.second_lt
  have hnano := t.nano_lt
  have hleap := t.leap_last
  have hhours : t.reading.hour = t.second / 3600 := rfl
  have hminutes : t.reading.minute = t.second / 60 % 60 := rfl
  have hseconds : t.reading.second = t.second % 60 + t.nano / 1000000000 := rfl
  have hnanos : t.reading.nano = t.nano % 1000000000 := rfl
  have hoffset : t.reading.offset = 0 := rfl
  have hdate : t.reading.date.toDays = t.days := toDays_ofDays t.days
  have hsame : Int.fdiv t.second 86400 = 0 := by
    rw [Int.fdiv_eq_ediv_of_nonneg _ (by decide)]
    omega
  have hback : ((t.second : Int) - 0 * 86400).toNat = t.second := by omega
  unfold Reading.toInstant?
  rw [if_pos ⟨hmin, hmax, hmonth, hmonth', hday, hday', by omega, by omega, by omega, by omega⟩]
  by_cases hlast : t.reading.second = 60
  · -- the sixtieth second is the fifty-ninth, with a nanosecond that counts on
    have htotal : (t.reading.hour : Int) * 3600 + t.reading.minute * 60 + (59 : Nat)
        - t.reading.offset * 60 = t.second := by omega
    have hcounted : t.reading.nano + 1000000000 = t.nano := by omega
    simp only [hlast, if_true, htotal, hcounted, hsame, hback, hdate, Int.add_zero]
    exact t.ofParts?_self
  · have htotal : (t.reading.hour : Int) * 3600 + t.reading.minute * 60 + t.reading.second
        - t.reading.offset * 60 = t.second := by omega
    have hcounted : t.reading.nano = t.nano := by omega
    simp only [hlast, if_false, htotal, hcounted, hsame, hback, hdate, Int.add_zero]
    exact t.ofParts?_self

/-- A time is read as it was written. -/
theorem ofText?_render (t : Instant) : ofText? t.render = some t := by
  have hdate := exists_ofDays t.days
  have hsecond := t.second_lt
  have hnano := t.nano_lt
  have hleap := t.leap_last
  have hmonth : (Date.ofDays t.days).month < 100 := by
    have := hdate.month
    omega
  have hday : (Date.ofDays t.days).day < 100 := by
    have := hdate.day
    have := monthDays_le (Date.ofDays t.days).year (Date.ofDays t.days).month
    omega
  have htext : t.render.toList = renderYear (Date.ofDays t.days).year ++ '-' ::
      (Text.padded 2 (Date.ofDays t.days).month ++ '-' ::
      (Text.padded 2 (Date.ofDays t.days).day ++ 'T' ::
      (Text.padded 2 (t.second / 3600) ++ ':' ::
      (Text.padded 2 (t.second / 60 % 60) ++ ':' ::
      (Text.padded 2 (t.second % 60 + t.nano / 1000000000) ++
      (renderFraction (t.nano % 1000000000) ++ ['Z'])))))) := by
    simp [render, renderSeconds]
  have hzone : ¬ (List.map Char.toUpper (List.take 3 (skipBlank ['Z'])) = ['U', 'T', 'C']) := by
    decide
  -- one part after another is read; a `simp` of the whole would look at each rest many times
  unfold ofText?
  rw [htext]
  dsimp only [Option.bind_eq_bind]
  rw [readYear_renderYear]
  dsimp only [Option.bind_some]
  rw [readSign (by decide), Option.bind_some, readPart hmonth]
  dsimp only [Option.bind_some]
  rw [readSign (by decide), Option.bind_some, readPart hday]
  dsimp only [Option.bind_some]
  rw [readChar_cons, Option.orElse_eq_orElse, Option.orElse_some, Option.bind_some,
    readPart (by omega : t.second / 3600 < 100)]
  dsimp only [Option.bind_some]
  rw [readSign (by decide), Option.bind_some, readPart (by omega : t.second / 60 % 60 < 100)]
  dsimp only [Option.bind_some]
  rw [readSign (by decide), Option.bind_some,
    readPart (by omega : t.second % 60 + t.nano / 1000000000 < 100)]
  dsimp only [Option.bind_some]
  rw [readFraction_renderFraction (by omega : t.nano % 1000000000 < 1000000000)]
  dsimp only [Option.bind_some]
  rw [if_neg hzone]
  exact t.toInstant?_reading

end Orchestrator.Instant
