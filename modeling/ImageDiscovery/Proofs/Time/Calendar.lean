import ImageDiscovery.Time.Calendar

/-!
# Counting days

An era of four hundred years begins in March. It has four centuries; a century has twenty-five
cycles of four years, the last of which lacks its leap day in the first three centuries; and a year
has 365 days, or 366 as the last one of a full cycle. So every day of an era lies on a day of a
year, and from these two its date can be read off. The date is one of the calendar and counts as
many days as were given.

## Main definitions

* `Time.DayOfYear` — the year of an era and the day of that year on which a day of the era lies.
* `Time.Date.ofMonth` — the date with a year and a month that are counted from March.

## Main results

* `Time.exists_dayOfYear` — every day of an era lies on a day of a year.
* `Time.Date.days_ofDays` — the date of a day counts as many days.
* `Time.Date.isValid_ofDays` — the date of a day is one of the calendar.
-/

namespace ImageDiscovery.Time

/-- A day of an era lies on a day of a year. The year is the one that the calendar computes, and its
last day is there only if February of the next year has a leap day. -/
structure DayOfYear (dayOfEra year day : Int) : Prop where
  year_mem : 0 ≤ year ∧ year ≤ 399
  day_mem : 0 ≤ day ∧ day ≤ 365
  eq : dayOfEra = 365 * year + year / 4 - year / 100 + day
  yearOfEra_eq : (dayOfEra - dayOfEra / 1460 + dayOfEra / 36524 - dayOfEra / 146096) / 365 = year
  leap : day = 365 → (year + 1) % 4 = 0 ∧ ((year + 1) % 100 ≠ 0 ∨ (year + 1) % 400 = 0)

/-- A day of a year, where the year is given by its century, its cycle and its place there. -/
theorem dayOfYear_of_cycle {c q y d : Int} (hc : 0 ≤ c ∧ c ≤ 3) (hq : 0 ≤ q ∧ q ≤ 24)
    (hy : 0 ≤ y ∧ y ≤ 3) (hd : 0 ≤ d ∧ d ≤ 365) (hleap : d = 365 → y = 3 ∧ (q = 24 → c = 3)) :
    DayOfYear (36524 * c + 1461 * q + 365 * y + d) (100 * c + 4 * q + y) d := by
  refine ⟨by omega, hd, by omega, ?_, by omega⟩
  -- The last day of the era is the only one after the end of its century.
  have hrest : 1461 * q + 365 * y + d < 36524 ∨ c = 3 ∧ q = 24 ∧ y = 3 ∧ d = 365 := by omega
  have hcentury : (36524 * c + 1461 * q + 365 * y + d) / 36524 -
      (36524 * c + 1461 * q + 365 * y + d) / 146096 = c := by
    rcases hrest with h | ⟨rfl, rfl, rfl, rfl⟩
    · have h36524 : (36524 * c + 1461 * q + 365 * y + d) / 36524 = c := by omega
      have h146096 : (36524 * c + 1461 * q + 365 * y + d) / 146096 = 0 := by omega
      omega
    · decide
  have h1460 : (36524 * c + 1461 * q + 365 * y + d) / 1460 =
      25 * c + q + (24 * c + q + 365 * y + d) / 1460 := by omega
  generalize (36524 * c + 1461 * q + 365 * y + d) / 36524 = a at hcentury ⊢
  generalize (36524 * c + 1461 * q + 365 * y + d) / 146096 = b at hcentury ⊢
  rw [h1460]
  omega

/-- Every day of an era lies on a day of a year. -/
theorem exists_dayOfYear {x : Int} (h₀ : 0 ≤ x) (h : x < 146097) : ∃ y d, DayOfYear x y d := by
  have hmin (a : Int) : min a 3 = if a ≤ 3 then a else 3 := rfl
  obtain ⟨c, hc⟩ : ∃ c, c = min (x / 36524) 3 := ⟨_, rfl⟩
  obtain ⟨q, hq⟩ : ∃ q, q = (x - 36524 * c) / 1461 := ⟨_, rfl⟩
  obtain ⟨y, hy⟩ : ∃ y, y = min ((x - 36524 * c) % 1461 / 365) 3 := ⟨_, rfl⟩
  obtain ⟨d, hd⟩ : ∃ d, d = (x - 36524 * c) % 1461 - 365 * y := ⟨_, rfl⟩
  rw [hmin] at hc hy
  obtain rfl : x = 36524 * c + 1461 * q + 365 * y + d := by omega
  exact ⟨_, _, dayOfYear_of_cycle (by omega) (by omega) (by omega) (by omega) (by omega)⟩

namespace Date

/-- The date of a day, where year and month are counted from March: the months ten and eleven are
those of the next year. -/
def ofMonth (year month day : Int) : Date :=
  if month < 10 then ⟨year, (month + 3).toNat, day.toNat⟩
  else ⟨year + 1, (month - 9).toNat, day.toNat⟩

/-- The date of a day of an era, of which `d / 153` has the month of a day of the year. -/
theorem ofDays_eq {n y d : Int} (h : DayOfYear ((n + 719468) % 146097) y d) : ofDays n =
    ofMonth (y + (n + 719468) / 146097 * 400) ((5 * d + 2) / 153)
      (d - (153 * ((5 * d + 2) / 153) + 2) / 5 + 1) := by
  have hday : (n + 719468) % 146097 - (365 * y + y / 4 - y / 100) = d := by
    have := h.eq
    omega
  have hm : 0 ≤ (5 * d + 2) / 153 ∧ (5 * d + 2) / 153 ≤ 11 := by
    have := h.day_mem
    omega
  simp only [ofDays, h.yearOfEra_eq, hday, ofMonth]
  split
  · rw [if_neg (by omega), Int.add_zero]
  · rw [if_pos (by omega)]

/-- The days before a date whose year and month are counted from March. -/
theorem days_ofMonth {y m k : Int} (hm : 0 ≤ m ∧ m ≤ 11) (hk : 0 ≤ k) : (ofMonth y m k).days =
    y / 400 * 146097 + (y % 400 * 365 + y % 400 / 4 - y % 400 / 100 + ((153 * m + 2) / 5 + k - 1)) -
      719468 := by
  unfold ofMonth
  split
  · have hmonth : (((m + 3).toNat : Int) + 9) % 12 = m := by omega
    simp only [days, hmonth, if_neg (show ¬(m + 3).toNat ≤ 2 by omega), Int.toNat_of_nonneg hk]
  · have hmonth : (((m - 9).toNat : Int) + 9) % 12 = m := by omega
    simp only [days, hmonth, if_pos (show (m - 9).toNat ≤ 2 by omega), Int.toNat_of_nonneg hk,
      Int.add_sub_cancel]

/-- **The date of a day counts as many days.** -/
theorem days_ofDays (n : Int) : (ofDays n).days = n := by
  obtain ⟨y, d, h⟩ := exists_dayOfYear (x := (n + 719468) % 146097) (by omega) (by omega)
  have hd := h.day_mem
  rw [ofDays_eq h, days_ofMonth (by omega) (by omega)]
  obtain ⟨hy, -, hx, -, -⟩ := h
  have hera : (y + (n + 719468) / 146097 * 400) / 400 = (n + 719468) / 146097 := by omega
  have hyear : (y + (n + 719468) / 146097 * 400) % 400 = y := by omega
  rw [hera, hyear]
  omega

theorem daysInMonth_le (y : Int) (m : Nat) : daysInMonth y m ≤ 31 := by
  unfold daysInMonth
  split
  · split <;> decide
  · split <;> decide

theorem isLeapYear_iff {y : Int} :
    isLeapYear y = true ↔ y % 4 = 0 ∧ (y % 100 ≠ 0 ∨ y % 400 = 0) := by
  simp only [isLeapYear, Bool.and_eq_true, Bool.or_eq_true, beq_iff_eq, bne_iff_ne]

theorem isValid_iff {d : Date} : d.isValid = true ↔
    (1 ≤ d.month ∧ d.month ≤ 12) ∧ 1 ≤ d.day ∧ d.day ≤ daysInMonth d.year d.month := by
  simp [isValid, and_assoc]

/-- Counted from March, the months but the last one are as long as the days before them tell. -/
theorem daysInMonth_ofMonth {y m k : Int} (hm : 0 ≤ m ∧ m ≤ 10) :
    (daysInMonth (ofMonth y m k).year (ofMonth y m k).month : Int) =
      (153 * (m + 1) + 2) / 5 - (153 * m + 2) / 5 := by
  have hmonths : m = 0 ∨ m = 1 ∨ m = 2 ∨ m = 3 ∨ m = 4 ∨ m = 5 ∨ m = 6 ∨ m = 7 ∨ m = 8 ∨ m = 9 ∨
      m = 10 := by omega
  rcases hmonths with rfl | rfl | rfl | rfl | rfl | rfl | rfl | rfl | rfl | rfl | rfl <;> rfl

theorem daysInMonth_february {y k : Int} :
    daysInMonth (ofMonth y 11 k).year (ofMonth y 11 k).month =
      if isLeapYear (y + 1) then 29 else 28 := rfl

/-- The days of a month of the calendar, where year and month are counted from March. -/
theorem isValid_ofMonth {y m k : Int} (hm : 0 ≤ m ∧ m ≤ 11) (hk : 1 ≤ k)
    (hlast : k ≤ (153 * (m + 1) + 2) / 5 - (153 * m + 2) / 5)
    (hfebruary : m = 11 → k ≤ 28 ∨ k = 29 ∧ isLeapYear (y + 1) = true) :
    (ofMonth y m k).isValid = true := by
  have hday : (ofMonth y m k).day = k.toNat := by
    unfold ofMonth
    split <;> rfl
  have hmonth : 1 ≤ (ofMonth y m k).month ∧ (ofMonth y m k).month ≤ 12 := by
    unfold ofMonth
    split
    · dsimp only
      omega
    · dsimp only
      omega
  refine isValid_iff.2 ⟨hmonth, by omega, ?_⟩
  by_cases h11 : m = 11
  · subst h11
    rw [hday, daysInMonth_february]
    rcases hfebruary rfl with h | ⟨rfl, h⟩
    · split <;> omega
    · rw [if_pos h]
      exact Nat.le_refl 29
  · have hdays := daysInMonth_ofMonth (y := y) (k := k) (show 0 ≤ m ∧ m ≤ 10 by omega)
    omega

/-- **The date of a day is one of the calendar.** -/
theorem isValid_ofDays (n : Int) : (ofDays n).isValid = true := by
  obtain ⟨y, d, h⟩ := exists_dayOfYear (x := (n + 719468) % 146097) (by omega) (by omega)
  have hd := h.day_mem
  rw [ofDays_eq h]
  refine isValid_ofMonth (by omega) (by omega) (by omega) fun hm => ?_
  by_cases hlast : d = 365
  · refine .inr ⟨by omega, isLeapYear_iff.2 ?_⟩
    have hleap := h.leap hlast
    omega
  · left
    omega

end Date

end ImageDiscovery.Time
