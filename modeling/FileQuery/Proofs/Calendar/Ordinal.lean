import FileQuery.Calendar.Moment
import Mathlib.Tactic.ByContra

/-!
# Dates and their ordinals

The date of a day number has that number as its ordinal, so a reading of calendar and clock is made up
of its date and its time of day.
-/

namespace FileQuery.Calendar

/-! ## 1. Days of a year -/

def yearLength (year : Nat) : Nat := if isLeap year then 366 else 365

theorem daysBeforeMonth_thirteen (year : Nat) : daysBeforeMonth year 13 = yearLength year := by
  unfold yearLength
  cases h : isLeap year <;> simp [daysBeforeMonth, daysInMonth, h]

namespace Date

/-- What the search for a month finds: a day of that month, which is as many days after the first day of
the year as was asked for. -/
theorem ofDayOfYear_spec (year : Nat) : ∀ months month dayOfYear : Nat, 1 ≤ month →
    month + months = 12 → daysBeforeMonth year month + dayOfYear < yearLength year →
    ∃ m d, ofDayOfYear year month dayOfYear months = ⟨year, m, d⟩ ∧ 1 ≤ m ∧ m ≤ 12 ∧ 1 ≤ d ∧
      d ≤ daysInMonth year m ∧
      daysBeforeMonth year m + d = daysBeforeMonth year month + dayOfYear + 1 := by
  intro months
  induction months with
  | zero =>
    intro month dayOfYear _ hmonth hday
    obtain rfl : month = 12 := hmonth
    refine ⟨12, dayOfYear + 1, rfl, by decide, by decide, by omega, ?_, by omega⟩
    have hend : daysBeforeMonth year 13 = daysBeforeMonth year 12 + daysInMonth year 12 := rfl
    rw [← daysBeforeMonth_thirteen] at hday
    omega
  | succ months ih =>
    intro month dayOfYear hfirst hmonth hday
    rw [ofDayOfYear]
    by_cases hd : dayOfYear < daysInMonth year month
    · rw [if_pos hd]
      exact ⟨month, dayOfYear + 1, rfl, hfirst, by omega, by omega, hd, by omega⟩
    · rw [if_neg hd]
      -- the days of this month are counted with the months before
      have hnext : daysBeforeMonth year (month + 1) =
          daysBeforeMonth year month + daysInMonth year month := rfl
      obtain ⟨m, d, hdate, hm, hm', hd1, hd2, hsum⟩ :=
        ih (month + 1) (dayOfYear - daysInMonth year month) (by omega) (by omega) (by omega)
      exact ⟨m, d, hdate, hm, hm', hd1, hd2, by omega⟩

/-! ## 2. Years -/

/-- A year so many cycles of 400, 100, 4 and 1 years after the first one. -/
theorem daysBeforeYear_cycles {q c y z : Nat} (hc : c ≤ 3) (hy : y ≤ 24) (hz : z ≤ 3) :
    daysBeforeYear (q * 400 + c * 100 + y * 4 + z + 1) =
      q * 146097 + c * 36524 + y * 1461 + z * 365 := by
  simp only [daysBeforeYear, Nat.add_sub_cancel]
  omega

/-- The year that `ofOrdinal` finds is the one that the day lies in. -/
theorem exists_year (n : Nat) (hn : 1 ≤ n) :
    ∃ year dayOfYear, ofOrdinal n = ofDayOfYear year 1 dayOfYear 11 ∧ 1 ≤ year ∧
      daysBeforeYear year + dayOfYear + 1 = n ∧ dayOfYear < yearLength year := by
  -- the days are divided into cycles of 400, 100, 4 and 1 years; `s` is what four years leave over
  obtain ⟨r, hr⟩ : ∃ r, r = (n - 1) % 146097 := ⟨_, rfl⟩
  obtain ⟨q, hq⟩ : ∃ q, q = (n - 1) / 146097 := ⟨_, rfl⟩
  obtain ⟨c, hc⟩ : ∃ c, c = min (r / 36524) 3 := ⟨_, rfl⟩
  obtain ⟨y, hy⟩ : ∃ y, y = (r - c * 36524) / 1461 := ⟨_, rfl⟩
  obtain ⟨s, hs⟩ : ∃ s, s = (r - c * 36524) % 1461 := ⟨_, rfl⟩
  obtain ⟨z, hz⟩ : ∃ z, z = min (s / 365) 3 := ⟨_, rfl⟩
  have hn' : n = q * 146097 + r + 1 := by omega
  have hr' : r = c * 36524 + y * 1461 + s := by omega
  have hs' : z * 365 ≤ s := by omega
  refine ⟨q * 400 + c * 100 + y * 4 + z + 1, s - z * 365, ?_, by omega, ?_, ?_⟩
  · simp only [ofOrdinal, hr, hq, hc, hy, hs, hz]
  · rw [daysBeforeYear_cycles (by omega) (by omega) (by omega)]
    omega
  · unfold yearLength
    by_cases hlong : s - z * 365 < 365
    · split <;> omega
    · -- a 366th day is the last one of four years, and of a hundred years only every fourth time
      have hlast : z = 3 ∧ s = 1460 := by omega
      have hcentury : y = 24 → c = 3 := by omega
      have hleap : isLeap (q * 400 + c * 100 + y * 4 + z + 1) = true := by
        simp only [isLeap, Bool.and_eq_true, Bool.or_eq_true, beq_iff_eq, bne_iff_ne, ne_eq]
        omega
      rw [if_pos hleap]
      omega

theorem ofOrdinal_spec (n : Nat) (hn : 1 ≤ n) :
    (ofOrdinal n).ordinal = n ∧ 1 ≤ (ofOrdinal n).year ∧ 1 ≤ (ofOrdinal n).month ∧
      (ofOrdinal n).month ≤ 12 ∧ 1 ≤ (ofOrdinal n).day ∧
      (ofOrdinal n).day ≤ daysInMonth (ofOrdinal n).year (ofOrdinal n).month := by
  obtain ⟨year, dayOfYear, hdate, hyear, hsum, hday⟩ := exists_year n hn
  have hone : daysBeforeMonth year 1 = 0 := rfl
  obtain ⟨m, d, hmonth, hm, hm', hd, hd', hdays⟩ :=
    ofDayOfYear_spec year 11 1 dayOfYear (by omega) (by omega) (by omega)
  rw [hdate, hmonth]
  refine ⟨?_, hyear, hm, hm', hd, hd'⟩
  show daysBeforeYear year + daysBeforeMonth year m + d = n
  omega

theorem ordinal_ofOrdinal {n : Nat} (hn : 1 ≤ n) : (ofOrdinal n).ordinal = n :=
  (ofOrdinal_spec n hn).1

/-- Number of days up to the end of the last year. -/
theorem daysBeforeYear_of_lastYear_lt {year : Nat} (h : lastYear < year) :
    3652059 ≤ daysBeforeYear year := by
  unfold lastYear at h
  simp only [daysBeforeYear]
  omega

theorem isValid_ofOrdinal {n : Nat} (hn : 1 ≤ n) (hlast : n ≤ 3652059) :
    (ofOrdinal n).isValid = true := by
  obtain ⟨hordinal, hyear, hm, hm', hd, hd'⟩ := ofOrdinal_spec n hn
  have hyear' : (ofOrdinal n).year ≤ lastYear := by
    by_contra hlate
    have hdays := daysBeforeYear_of_lastYear_lt (Nat.lt_of_not_le hlate)
    rw [ordinal] at hordinal
    omega
  simp [isValid, firstYear, hyear, hyear', hm, hm', hd, hd']

theorem daysBeforeMonth_le {year m m' : Nat} (h : m ≤ m') :
    daysBeforeMonth year m ≤ daysBeforeMonth year m' := by
  induction h with
  | refl => exact Nat.le_refl _
  | step _ ih => exact Nat.le_trans ih (Nat.le_add_right _ _)

theorem daysBeforeYear_add_le {year : Nat} (h : year ≤ lastYear) :
    daysBeforeYear year + yearLength year ≤ 3652059 := by
  rcases Nat.lt_or_eq_of_le h with hlt | rfl
  · -- before the last year a crude bound will do
    have hlength : yearLength year ≤ 366 := by
      unfold yearLength
      split <;> omega
    unfold lastYear at hlt
    simp only [daysBeforeYear]
    omega
  · decide

/-- Only the days of the years with dates have a date. -/
theorem ordinal_le {d : Date} (h : d.isValid = true) : 1 ≤ d.ordinal ∧ d.ordinal ≤ 3652059 := by
  simp only [isValid, Bool.and_eq_true, decide_eq_true_eq] at h
  obtain ⟨⟨⟨⟨⟨hyear, hyear'⟩, hm⟩, hm'⟩, hd⟩, hd'⟩ := h
  have hmonth : daysBeforeMonth d.year d.month + daysInMonth d.year d.month ≤
      daysBeforeMonth d.year 13 := daysBeforeMonth_le (Nat.succ_le_succ hm')
  rw [daysBeforeMonth_thirteen] at hmonth
  have hlast := daysBeforeYear_add_le hyear'
  rw [ordinal]
  omega

end Date

/-! ## 3. Readings -/

theorem Clock.sinceMidnight_ofMicros (n : Nat) : (Clock.ofMicros n).sinceMidnight = n := by
  simp only [Clock.sinceMidnight, Clock.ofMicros, Calendar.second]
  omega

theorem Clock.isValid_ofMicros {n : Nat} (h : n < Calendar.day) :
    (Clock.ofMicros n).isValid = true := by
  have hhour : n / 1000000 / 3600 < 24 := by
    simp only [Calendar.day, Calendar.second] at h
    omega
  have hminute : n / 1000000 / 60 % 60 < 60 := Nat.mod_lt _ (by decide)
  have hsecond : n / 1000000 % 60 < 60 := Nat.mod_lt _ (by decide)
  have hmicro : n % 1000000 < 1000000 := Nat.mod_lt _ (by decide)
  simp only [Clock.isValid, Clock.ofMicros, Calendar.second, hhour, hminute, hsecond, hmicro,
    decide_true, Bool.and_self]

theorem Clock.sinceMidnight_lt {c : Clock} (h : c.isValid = true) : c.sinceMidnight < day := by
  simp only [Clock.isValid, Bool.and_eq_true, decide_eq_true_eq] at h
  simp only [Clock.sinceMidnight, Calendar.second, day]
  omega

/-- A reading is made up of its date and its time of day. -/
theorem readingOf_dateOf (reading : Nat) :
    readingOf (dateOf reading) (clockOf reading) = reading := by
  unfold readingOf dateOf clockOf
  rw [Date.ordinal_ofOrdinal (Nat.le_add_left 1 _), Clock.sinceMidnight_ofMicros,
    Nat.add_sub_cancel]
  exact Nat.div_add_mod' reading day

theorem isValid_dateOf {reading : Nat} (h : reading < readingLimit) :
    (dateOf reading).isValid = true := by
  refine Date.isValid_ofOrdinal (Nat.le_add_left 1 _) ?_
  rw [readingLimit, Nat.mul_comm] at h
  exact Nat.div_lt_of_lt_mul h

theorem isValid_clockOf (reading : Nat) : (clockOf reading).isValid = true :=
  Clock.isValid_ofMicros (Nat.mod_lt _ (by decide))

theorem readingOf_lt {d : Date} {c : Clock} (hd : d.isValid = true) (hc : c.isValid = true) :
    readingOf d c < readingLimit := by
  obtain ⟨hfirst, hlast⟩ := Date.ordinal_le hd
  have htime := Clock.sinceMidnight_lt hc
  have hdays : (d.ordinal - 1) * day + day ≤ readingLimit := by
    rw [← Nat.succ_mul]
    exact Nat.mul_le_mul_right day (by omega)
  unfold readingOf
  omega

end FileQuery.Calendar
