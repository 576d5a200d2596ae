import Orchestrator.Instant

/-!
# Days and dates

Every day has a date that exists, the date leads back to the day (`toDays_ofDays`), and later days
have later dates (`before_ofDays`).

A year is taken to start in March and counted within an era of 400 years. A day of an era lies in a
century, a group of four years, a year and a place in that year: `exists_place`.
-/
namespace Orchestrator.Calendar

/-- A day of an era, by its century, its group of four years, its year and its place in the year.
Only the last year of a group can have a 366th day, and the last group of a century has none unless
the century is the last. -/
structure IsPlace (e century group year day : Nat) : Prop where
  century_lt : century < 4
  group_lt : group < 25
  year_lt : year < 4
  day_le : day ≤ 365
  leap : day = 365 → year = 3 ∧ (group < 24 ∨ century = 3)
  eq : e = 36524 * century + 1461 * group + 365 * year + day

theorem exists_place {e : Nat} (he : e < 146097) :
    ∃ century group year day, IsPlace e century group year day := by
  have hcentury : ∃ c r, c < 4 ∧ e = 36524 * c + r ∧ r ≤ 36524 ∧ (r = 36524 → c = 3) := by
    refine ⟨(e - e / 146096) / 36524, e - 36524 * ((e - e / 146096) / 36524), ?_⟩
    omega
  obtain ⟨c, r, hc, he', hr, hlast⟩ := hcentury
  have hgroup : ∃ g s, g < 25 ∧ r = 1461 * g + s ∧ s ≤ 1460 ∧ (s = 1460 → g < 24 ∨ c = 3) := by
    refine ⟨r / 1461, r % 1461, ?_⟩
    omega
  obtain ⟨g, s, hg, hr', hs, hlast'⟩ := hgroup
  have hyear : ∃ y d, y < 4 ∧ s = 365 * y + d ∧ d ≤ 365 ∧ (d = 365 → y = 3 ∧ s = 1460) := by
    refine ⟨(s - s / 1460) / 365, s - 365 * ((s - s / 1460) / 365), ?_⟩
    omega
  obtain ⟨y, d, hy, hs', hd, hlast''⟩ := hyear
  exact ⟨c, g, y, d, hc, hg, hy, hd,
    fun h => ⟨(hlast'' h).1, hlast' (hlast'' h).2⟩, by omega⟩

/-- The year of a day of an era, as it is computed. -/
theorem IsPlace.yearOfEra {e c g y d : Nat} (h : IsPlace e c g y d) :
    (e - e / 1460 + e / 36524 - e / 146096) / 365 = 100 * c + 4 * g + y := by
  obtain ⟨hc, hg, hy, hd, hleap, heq⟩ := h
  by_cases hlast : e = 146096
  · subst hlast
    omega
  · have hcentury : e / 36524 = c := by omega
    have hera : e / 146096 = 0 := by omega
    -- the quotient by 1460 counts the leap days before the day, and one more late in a year
    have hleaps : ∃ n, e / 1460 = 25 * c + g + n ∧ n ≤ d ∧ d - n < 365 := by
      by_cases hfew : 24 * c + g + 365 * y + d < 1460
      · exact ⟨0, by omega⟩
      · exact ⟨1, by omega⟩
    obtain ⟨n, hquotient, hnd, hlt⟩ := hleaps
    rw [hcentury, hera, hquotient]
    omega

/-! ## Years from March to March -/

theorem marchDays_eq (year : Int) :
    marchDays year = 365 * year + year / 4 - year / 100 + year / 400 := by
  simp only [marchDays, Int.fdiv_eq_ediv_of_nonneg _ (by decide : (0 : Int) ≤ 4),
    Int.fdiv_eq_ediv_of_nonneg _ (by decide : (0 : Int) ≤ 100),
    Int.fdiv_eq_ediv_of_nonneg _ (by decide : (0 : Int) ≤ 400)]

theorem isLeap_iff (year : Int) :
    isLeap year = true ↔ year % 4 = 0 ∧ (year % 100 ≠ 0 ∨ year % 400 = 0) := by
  simp [isLeap]

/-- A place in a year that starts in March: a day it has. -/
def HasDay (year : Int) (day : Nat) : Prop := day ≤ 365 ∧ (day = 365 → isLeap (year + 1))

/-- The date of a place in a year that starts in March. -/
def Date.ofMarch (year : Int) (day : Nat) : Date :=
  let month := (5 * day + 2) / 153
  ⟨if month ≥ 10 then year + 1 else year, if month ≥ 10 then month - 9 else month + 3,
    day - monthOffset month + 1⟩

/-- Every day lies in a year that starts in March, and its date is the date of its place there. -/
theorem exists_march (days : Int) :
    ∃ year day, HasDay year day ∧ days + 719468 = marchDays year + day ∧
      Date.ofDays days = Date.ofMarch year day := by
  obtain ⟨era, e, hdays, hlt⟩ : ∃ (era : Int) (e : Nat), days + 719468 = era * 146097 + e ∧
      e < 146097 :=
    ⟨(days + 719468) / 146097, ((days + 719468) % 146097).toNat, by omega, by omega⟩
  have hera : Int.fdiv (days + 719468) 146097 = era := by
    rw [Int.fdiv_eq_ediv_of_nonneg _ (by decide)]
    omega
  have hday : (days + 719468 - era * 146097).toNat = e := by omega
  obtain ⟨c, g, y, d, hplace⟩ := exists_place hlt
  have hyear := hplace.yearOfEra
  obtain ⟨hc, hg, hy, hd, hleap, heq⟩ := hplace
  have hfour : (100 * c + 4 * g + y) / 4 = 25 * c + g := by omega
  have hhundred : (100 * c + 4 * g + y) / 100 = c := by omega
  refine ⟨(100 * c + 4 * g + y : Nat) + era * 400, d, ⟨hd, ?_⟩, ?_, ?_⟩
  · intro h
    obtain ⟨rfl, hlast⟩ := hleap h
    rw [isLeap_iff]
    refine ⟨by omega, ?_⟩
    by_cases hg' : g = 24
    · right
      omega
    · left
      omega
  · have hfour' : ((100 * c + 4 * g + y : Nat) + era * 400 : Int) / 4 = 25 * c + g + 100 * era := by
      omega
    have hhundred' : ((100 * c + 4 * g + y : Nat) + era * 400 : Int) / 100 = c + 4 * era := by omega
    have hera' : ((100 * c + 4 * g + y : Nat) + era * 400 : Int) / 400 = era := by omega
    rw [hdays, marchDays_eq, hfour', hhundred', hera']
    omega
  · have hplaced : e - (365 * (100 * c + 4 * g + y) + (100 * c + 4 * g + y) / 4
        - (100 * c + 4 * g + y) / 100) = d := by
      rw [hfour, hhundred]
      omega
    simp only [Date.ofDays, hera, hday, hyear, hplaced, Date.ofMarch]

theorem toDays_ofMarch {year : Int} {day : Nat} (h : HasDay year day) :
    (Date.ofMarch year day).toDays = marchDays year + day - 719468 := by
  have hd := h.1
  have hmonth : (5 * day + 2) / 153 < 12 := by omega
  have hoffset : monthOffset ((5 * day + 2) / 153) ≤ day := by
    unfold monthOffset
    omega
  simp only [Date.toDays, Date.ofMarch]
  by_cases hlate : (5 * day + 2) / 153 ≥ 10
  · have hback : ((5 * day + 2) / 153 - 9 + 9) % 12 = (5 * day + 2) / 153 := by omega
    have hearly : (5 * day + 2) / 153 - 9 ≤ 2 := by omega
    simp only [hlate, if_true, hback, hearly, Int.add_sub_cancel]
    omega
  · have hback : ((5 * day + 2) / 153 + 3 + 9) % 12 = (5 * day + 2) / 153 := by omega
    have hlater : ¬ (5 * day + 2) / 153 + 3 ≤ 2 := by omega
    simp only [hlate, if_false, hback, hlater]
    omega

/-- The date leads back to the day. -/
@[simp] theorem toDays_ofDays (days : Int) : (Date.ofDays days).toDays = days := by
  obtain ⟨year, day, hday, hdays, hdate⟩ := exists_march days
  rw [hdate, toDays_ofMarch hday]
  omega

/-! ## Dates exist -/

/-- The month is one of twelve, and has the day. -/
structure Date.Exists (d : Date) : Prop where
  month : 1 ≤ d.month ∧ d.month ≤ 12
  day : 1 ≤ d.day ∧ d.day ≤ monthDays d.year d.month

theorem monthDays_le (year : Int) (month : Nat) : monthDays year month ≤ 31 := by
  unfold monthDays
  split
  · split <;> decide
  all_goals decide

theorem exists_ofMarch {year : Int} {day : Nat} (h : HasDay year day) :
    (Date.ofMarch year day).Exists := by
  obtain ⟨hle, hleap⟩ := h
  have hmonth : (5 * day + 2) / 153 ≤ 10 ∨ (5 * day + 2) / 153 = 11 := by omega
  rcases hmonth with hmonth | hmonth
  · -- a month before February has its days in every year
    have hm : (5 * day + 2) / 153 = 0 ∨ (5 * day + 2) / 153 = 1 ∨ (5 * day + 2) / 153 = 2 ∨
        (5 * day + 2) / 153 = 3 ∨ (5 * day + 2) / 153 = 4 ∨ (5 * day + 2) / 153 = 5 ∨
        (5 * day + 2) / 153 = 6 ∨ (5 * day + 2) / 153 = 7 ∨ (5 * day + 2) / 153 = 8 ∨
        (5 * day + 2) / 153 = 9 ∨ (5 * day + 2) / 153 = 10 := by omega
    rcases hm with hm | hm | hm | hm | hm | hm | hm | hm | hm | hm | hm
    all_goals
      simp only [Date.ofMarch, hm, monthOffset]
      constructor
      · simp
      · simp [monthDays]
        omega
  · simp only [Date.ofMarch, hmonth, monthOffset]
    constructor
    · simp
    · by_cases hlast : day = 365
      · simp [monthDays, hleap hlast]
        omega
      · have hlen : 28 ≤ monthDays (year + 1) 2 := by
          simp only [monthDays]
          split <;> decide
        simp only [ge_iff_le, Nat.reduceLeDiff, if_true, Nat.reduceSub]
        refine ⟨trivial, ?_⟩
        omega

/-- The date of a day exists. -/
theorem exists_ofDays (days : Int) : (Date.ofDays days).Exists := by
  obtain ⟨year, day, hday, -, hdate⟩ := exists_march days
  rw [hdate]
  exact exists_ofMarch hday

/-! ## Later days have later dates -/

/-- One date comes before another. -/
def Date.Before (d d' : Date) : Prop :=
  d.year < d'.year ∨ d.year = d'.year ∧ (d.month < d'.month ∨ d.month = d'.month ∧ d.day < d'.day)

theorem marchDays_lt {year year' : Int} {day : Nat} (hday : HasDay year day) (h : year < year') :
    marchDays year + day < marchDays year' := by
  have hnext : marchDays year + day < marchDays (year + 1) := by
    obtain ⟨hle, hleap⟩ := hday
    rw [marchDays_eq, marchDays_eq]
    by_cases hlast : day = 365
    · have := (isLeap_iff _).1 (hleap hlast)
      omega
    · omega
  have hmono : marchDays (year + 1) ≤ marchDays year' := by
    rw [marchDays_eq, marchDays_eq]
    omega
  omega

theorem before_ofMarch {year year' : Int} {day day' : Nat} (hday : day ≤ 365) (hday' : day' ≤ 365)
    (h : year < year' ∨ year = year' ∧ day < day') :
    (Date.ofMarch year day).Before (Date.ofMarch year' day') := by
  have hmonth : (5 * day + 2) / 153 < 12 := by omega
  simp only [Date.Before, Date.ofMarch]
  rcases h with hyear | ⟨rfl, hlt⟩
  · -- January and February count to the year after the one they end
    split <;> split <;> omega
  · have hplace : (5 * day + 2) / 153 < (5 * day' + 2) / 153 ∨
        (5 * day + 2) / 153 = (5 * day' + 2) / 153 ∧ monthOffset ((5 * day + 2) / 153) ≤ day := by
      unfold monthOffset
      omega
    rcases hplace with hearlier | ⟨hsame, hoffset⟩
    · split <;> split <;> omega
    · rw [← hsame]
      omega

/-- Later days have later dates. -/
theorem before_ofDays {days days' : Int} (h : days < days') :
    (Date.ofDays days).Before (Date.ofDays days') := by
  obtain ⟨year, day, hday, hdays, hdate⟩ := exists_march days
  obtain ⟨year', day', hday', hdays', hdate'⟩ := exists_march days'
  rw [hdate, hdate']
  apply before_ofMarch hday.1 hday'.1
  rcases Int.lt_trichotomy year year' with hlt | rfl | hgt
  · left
    exact hlt
  · right
    omega
  · have := marchDays_lt hday' hgt
    omega

theorem year_mono {days days' : Int} (h : days ≤ days') :
    (Date.ofDays days).year ≤ (Date.ofDays days').year := by
  rcases Int.lt_or_eq_of_le h with hlt | rfl
  · rcases before_ofDays hlt with hyear | ⟨hyear, -⟩ <;> omega
  · exact Int.le_refl _

end Orchestrator.Calendar
