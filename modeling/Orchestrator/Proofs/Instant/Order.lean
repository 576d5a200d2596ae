import Orchestrator.Proofs.Instant.Calendar
import Orchestrator.Proofs.Text.Decimal

/-!
# Times and their written order

Times are ordered by day, second and nanosecond; a leap second comes after the second it stands with.
The form with nine digits after the point follows that order as long as the years are written alike:
`renderNanos_append_lt`.
-/
namespace Orchestrator.Instant

open Calendar

/-! ## Order -/

/-- The place in time: the nanoseconds since 1970, where every second is given room for a leap
second. -/
def rank (t : Instant) : Int := (t.days * 86400 + t.second) * 2000000000 + t.nano

instance : LE Instant := ⟨fun t u => t.rank ≤ u.rank⟩
instance : LT Instant := ⟨fun t u => t.rank < u.rank⟩

instance (t u : Instant) : Decidable (t ≤ u) := inferInstanceAs (Decidable (t.rank ≤ u.rank))
instance (t u : Instant) : Decidable (t < u) := inferInstanceAs (Decidable (t.rank < u.rank))

theorem le_def {t u : Instant} : t ≤ u ↔ t.rank ≤ u.rank := Iff.rfl

theorem lt_def {t u : Instant} : t < u ↔ t.rank < u.rank := Iff.rfl

/-- Days come first, then seconds, then nanoseconds. -/
theorem lt_iff {t u : Instant} : t < u ↔ t.days < u.days ∨ t.days = u.days ∧
    (t.second < u.second ∨ t.second = u.second ∧ t.nano < u.nano) := by
  have := t.second_lt
  have := u.second_lt
  have := t.nano_lt
  have := u.nano_lt
  rw [lt_def, rank, rank]
  omega

theorem rank_inj {t u : Instant} : t.rank = u.rank ↔ t = u := by
  constructor
  · intro h
    have := t.second_lt
    have := u.second_lt
    have := t.nano_lt
    have := u.nano_lt
    obtain ⟨days, second, nano, _, _, _, _, _⟩ := t
    obtain ⟨days', second', nano', _, _, _, _, _⟩ := u
    simp only [rank] at h
    simp only [mk.injEq]
    omega
  · rintro rfl
    rfl

theorem lt_trichotomy (t u : Instant) : t < u ∨ t = u ∨ u < t := by
  rw [← rank_inj, lt_def, lt_def]
  omega

theorem lt_or_eq_of_le {t u : Instant} (h : t ≤ u) : t < u ∨ t = u := by
  rw [← rank_inj, lt_def]
  rw [le_def] at h
  omega

theorem not_lt {t u : Instant} : ¬ t < u ↔ u ≤ t := by
  rw [lt_def, le_def]
  omega

/-! ## The year -/

/-- The year of a time. -/
def year (t : Instant) : Int := (Date.ofDays t.days).year

/-- Is the year written with four digits and nothing else? -/
def HasPlainYear (t : Instant) : Prop := 0 ≤ t.year ∧ t.year ≤ 9999

instance (t : Instant) : Decidable t.HasPlainYear :=
  inferInstanceAs (Decidable (0 ≤ t.year ∧ t.year ≤ 9999))

/-! ## Written order -/

/-- Years that are written so that the lesser one's text comes first: the same year, years of four
digits, a negative year and one of four digits, or years beyond 9999 with as many digits. -/
inductive Alike (y y' : Int) : Prop where
  | same (h : y = y')
  | plain (h : 0 ≤ y) (h' : y' ≤ 9999)
  | signed (h : y < 0) (h' : 0 ≤ y') (h'' : y' ≤ 9999)
  | long (h : 9999 < y) (h' : (Text.decimal y.natAbs).length = (Text.decimal y'.natAbs).length)

theorem HasPlainYear.alike {t u : Instant} (ht : t.HasPlainYear) (hu : u.HasPlainYear) :
    Alike t.year u.year :=
  .plain ht.1 hu.2

theorem renderYear_append_lt {y y' : Int} (halike : Alike y y') (h : y < y') (r r' : List Char) :
    renderYear y ++ r < renderYear y' ++ r' := by
  obtain heq | ⟨hlow, hhigh⟩ | ⟨hneg, hlow, hhigh⟩ | ⟨hlow, hdigits⟩ := halike
  · omega
  · rw [renderYear, renderYear, if_pos (by omega), if_pos (by omega)]
    apply Text.padded_append_lt _ (by omega)
    rw [Text.length_padded (by decide) (by omega), Text.length_padded (by decide) (by omega)]
  · obtain ⟨c, digits, hdigits, hc⟩ := Text.exists_padded_cons (by decide : 0 < 4) y'.toNat
    have hrange := Text.toNat_of_isDigit hc
    rw [renderYear, renderYear, if_neg (by omega), if_pos hneg, if_pos (by omega), hdigits]
    rw [List.cons_append, List.cons_append, List.cons_lt_cons_iff]
    left
    have hdash : ('-' : Char).toNat < c.toNat := by
      have : ('-' : Char).toNat = 45 := rfl
      omega
    exact hdash
  · rw [renderYear, renderYear, if_neg (by omega), if_neg (by omega), if_neg (by omega),
      if_neg (by omega), List.cons_append, List.cons_append, List.cons_lt_cons_iff]
    right
    refine ⟨rfl, Text.padded_append_lt ?_ (by omega) r r'⟩
    simp only [Text.padded, List.length_append, List.length_replicate, hdigits]

/-- The date as it is written. -/
def dateText (d : Date) : List Char :=
  renderYear d.year ++ '-' :: (Text.padded 2 d.month ++ '-' :: Text.padded 2 d.day)

/-- The time of day as it is written with nine digits after the point. -/
def clockText (second nano : Nat) : List Char :=
  Text.padded 2 (second / 3600) ++ ':' :: (Text.padded 2 (second / 60 % 60) ++ ':' ::
    (Text.padded 2 (second % 60 + nano / 1000000000) ++ '.' ::
      (Text.padded 9 (nano % 1000000000) ++ ['Z'])))

theorem toList_renderNanos (t : Instant) :
    t.renderNanos.toList = dateText (Date.ofDays t.days) ++ 'T' :: clockText t.second t.nano := by
  simp [renderNanos, renderSeconds, dateText, clockText]

/-- A part of two digits decides, or what follows it does. -/
theorem part_append_lt {m n : Nat} (hm : m < 100) (hn : n < 100) {r r' : List Char}
    (h : m < n ∨ m = n ∧ r < r') : Text.padded 2 m ++ r < Text.padded 2 n ++ r' := by
  rcases h with hlt | ⟨rfl, hrest⟩
  · apply Text.padded_append_lt _ hlt
    rw [Text.length_padded (by decide) hm, Text.length_padded (by decide) hn]
  · exact List.append_left_lt hrest

theorem sign_append_lt {c : Char} {r r' : List Char} (h : r < r') : c :: r < c :: r' :=
  List.cons_lt_cons_iff.2 (.inr ⟨rfl, h⟩)

theorem dateText_append_lt {d d' : Date} (hd : d.Exists) (hd' : d'.Exists)
    (halike : Alike d.year d'.year) (h : d.Before d') (r r' : List Char) :
    dateText d ++ r < dateText d' ++ r' := by
  have hday := monthDays_le d.year d.month
  have hday' := monthDays_le d'.year d'.month
  obtain ⟨⟨-, hmonth⟩, -, hdays⟩ := hd
  obtain ⟨⟨-, hmonth'⟩, -, hdays'⟩ := hd'
  simp only [dateText, List.append_assoc, List.cons_append]
  rcases h with hyear | ⟨hyear, hrest⟩
  · exact renderYear_append_lt halike hyear _ _
  · rw [hyear]
    apply List.append_left_lt
    apply sign_append_lt
    apply part_append_lt (by omega) (by omega)
    rcases hrest with hlt | ⟨heq, hlt⟩
    · exact .inl hlt
    · refine .inr ⟨heq, ?_⟩
      apply sign_append_lt
      exact part_append_lt (by omega) (by omega) (.inl hlt)

theorem clockText_append_lt {t u : Instant}
    (h : t.second < u.second ∨ t.second = u.second ∧ t.nano < u.nano) (r r' : List Char) :
    clockText t.second t.nano ++ r < clockText u.second u.nano ++ r' := by
  have hsecond := t.second_lt
  have hsecond' := u.second_lt
  have hnano := t.nano_lt
  have hnano' := u.nano_lt
  have hleap := t.leap_last
  have hleap' := u.leap_last
  simp only [clockText, List.append_assoc, List.cons_append]
  apply part_append_lt (by omega) (by omega)
  by_cases hhour : t.second / 3600 < u.second / 3600
  · exact .inl hhour
  refine .inr ⟨by omega, sign_append_lt (part_append_lt (by omega) (by omega) ?_)⟩
  by_cases hminute : t.second / 60 % 60 < u.second / 60 % 60
  · exact .inl hminute
  refine .inr ⟨by omega, sign_append_lt (part_append_lt (by omega) (by omega) ?_)⟩
  by_cases hsec : t.second % 60 + t.nano / 1000000000 < u.second % 60 + u.nano / 1000000000
  · exact .inl hsec
  refine .inr ⟨by omega, sign_append_lt (Text.padded_append_lt ?_ (by omega) _ _)⟩
  rw [Text.length_padded (by decide) (by omega), Text.length_padded (by decide) (by omega)]

/-- The earlier of two times whose years are written alike comes first, whatever follows. -/
theorem renderNanos_append_lt {t u : Instant} (halike : Alike t.year u.year) (h : t < u)
    (r r' : List Char) : t.renderNanos.toList ++ r < u.renderNanos.toList ++ r' := by
  rw [toList_renderNanos, toList_renderNanos, List.append_assoc, List.append_assoc]
  rcases lt_iff.1 h with hdays | ⟨hdays, hclock⟩
  · exact dateText_append_lt (exists_ofDays _) (exists_ofDays _) halike (before_ofDays hdays) _ _
  · rw [hdays]
    apply List.append_left_lt
    rw [List.cons_append, List.cons_append]
    exact sign_append_lt (clockText_append_lt hclock r r')

end Orchestrator.Instant
