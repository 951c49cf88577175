/-!
# Calendar dates

Days of the proleptic Gregorian calendar, counted from 1970-01-01, and the
dates they carry. Years before the year 1 are zero and negative. A year is
taken to begin in March, so that the leap day is its last day, and days are
counted within eras of 400 such years. A date is found again from its day.
-/

set_option autoImplicit false

namespace EventRelay.Time

structure Date where
  year : Int
  month : Int
  day : Int
  deriving DecidableEq, Repr

def daysPerEra : Int := 146097

def firstDay : Int := 719468

def daysBeforeYear (year : Int) : Int := year * 365 + year / 4 - year / 100

def daysBeforeMonth (month : Int) : Int := (153 * month + 2) / 5

/-- The year that a day of an era falls in. The last century of an era and the last year of four
are a day longer than the others. -/
def yearOfDay (day : Int) : Int :=
  let century := min (day / 36524) 3
  let inCentury := day - century * 36524
  century * 100 + inCentury / 1461 * 4 + min (inCentury % 1461 / 365) 3

def monthOfDay (day : Int) : Int := (5 * day + 2) / 153

def Date.dayNumber (d : Date) : Int :=
  let year := if d.month ≤ 2 then d.year - 1 else d.year
  year / 400 * daysPerEra + daysBeforeYear (year % 400) +
    daysBeforeMonth ((d.month + 9) % 12) + d.day - 1 - firstDay

def Date.fromMarch (year month day : Int) : Date :=
  if month < 10 then ⟨year, month + 3, day⟩ else ⟨year + 1, month - 9, day⟩

def Date.ofDayNumber (n : Int) : Date :=
  let inEra := (n + firstDay) % daysPerEra
  let year := yearOfDay inEra
  let inYear := inEra - daysBeforeYear year
  let month := monthOfDay inYear
  .fromMarch ((n + firstDay) / daysPerEra * 400 + year) month (inYear - daysBeforeMonth month + 1)

def Date.isReal (d : Date) : Bool :=
  1 ≤ d.month && d.month ≤ 12 && 1 ≤ d.day && d.day ≤ 31 && Date.ofDayNumber d.dayNumber == d

theorem yearOfDay_bounds (day : Int) (h₀ : 0 ≤ day) (h : day < daysPerEra) :
    0 ≤ yearOfDay day ∧ yearOfDay day < 400 ∧ daysBeforeYear (yearOfDay day) ≤ day ∧
      day - daysBeforeYear (yearOfDay day) ≤ 365 := by
  simp only [yearOfDay, daysBeforeYear, daysPerEra] at *
  generalize hc : min (day / 36524) 3 = c
  generalize hr : day - c * 36524 = r
  have : 0 ≤ c ∧ c ≤ 3 ∧ 0 ≤ r ∧ r ≤ 36524 := by omega
  generalize hq : r / 1461 = q
  generalize hs : r % 1461 = s
  have : 0 ≤ q ∧ q ≤ 24 ∧ 0 ≤ s ∧ s ≤ 1460 ∧ r = 1461 * q + s := by omega
  generalize hy : min (s / 365) 3 = y
  have : 0 ≤ y ∧ y ≤ 3 ∧ 365 * y ≤ s ∧ s - 365 * y ≤ 365 := by omega
  have e₁ : (c * 100 + q * 4 + y) / 4 = c * 25 + q := by omega
  have e₂ : (c * 100 + q * 4 + y) / 100 = c := by omega
  rw [e₁, e₂]
  omega

theorem monthOfDay_bounds (day : Int) (h₀ : 0 ≤ day) (h : day ≤ 365) :
    0 ≤ monthOfDay day ∧ monthOfDay day ≤ 11 ∧ daysBeforeMonth (monthOfDay day) ≤ day ∧
      day - daysBeforeMonth (monthOfDay day) ≤ 30 := by
  simp only [monthOfDay, daysBeforeMonth]
  omega

theorem dayNumber_fromMarch (era year month day : Int) (hy : 0 ≤ year ∧ year < 400)
    (hm : 0 ≤ month ∧ month ≤ 11) :
    (Date.fromMarch (era * 400 + year) month day).dayNumber =
      era * daysPerEra + daysBeforeYear year + daysBeforeMonth month + day - 1 - firstDay := by
  have e₁ : (era * 400 + year) / 400 = era := by omega
  have e₂ : (era * 400 + year) % 400 = year := by omega
  unfold Date.fromMarch
  split
  · have e₃ : (month + 3 + 9) % 12 = month := by omega
    have e₄ : ¬ month + 3 ≤ 2 := by omega
    simp only [Date.dayNumber, e₃, if_neg e₄, e₁, e₂]
  · have e₃ : (month - 9 + 9) % 12 = month := by omega
    have e₄ : month - 9 ≤ 2 := by omega
    have e₅ : era * 400 + year + 1 - 1 = era * 400 + year := by omega
    simp only [Date.dayNumber, e₃, if_pos e₄, e₅, e₁, e₂]

theorem dayNumber_ofDayNumber (n : Int) : (Date.ofDayNumber n).dayNumber = n := by
  have hn := Int.mul_ediv_add_emod (n + firstDay) daysPerEra
  obtain ⟨hy₀, hy, hd₀, hd⟩ := yearOfDay_bounds ((n + firstDay) % daysPerEra)
    (Int.emod_nonneg _ (by decide)) (Int.emod_lt_of_pos _ (by decide))
  obtain ⟨hm₀, hm, -, -⟩ := monthOfDay_bounds _ (Int.sub_nonneg_of_le hd₀) hd
  simp only [Date.ofDayNumber]
  rw [dayNumber_fromMarch _ _ _ _ ⟨hy₀, hy⟩ ⟨hm₀, hm⟩, Int.mul_comm]
  omega

theorem ofDayNumber_bounds (n : Int) :
    1 ≤ (Date.ofDayNumber n).month ∧ (Date.ofDayNumber n).month ≤ 12 ∧
      1 ≤ (Date.ofDayNumber n).day ∧ (Date.ofDayNumber n).day ≤ 31 := by
  obtain ⟨-, -, hd₀, hd⟩ := yearOfDay_bounds ((n + firstDay) % daysPerEra)
    (Int.emod_nonneg _ (by decide)) (Int.emod_lt_of_pos _ (by decide))
  obtain ⟨hm₀, hm, h₀, h⟩ := monthOfDay_bounds _ (Int.sub_nonneg_of_le hd₀) hd
  simp only [Date.ofDayNumber, Date.fromMarch]
  split <;> simp only <;> omega

theorem isReal_ofDayNumber (n : Int) : (Date.ofDayNumber n).isReal = true := by
  have h := ofDayNumber_bounds n
  simp [Date.isReal, dayNumber_ofDayNumber, h]

end EventRelay.Time
