import GcompatMusl.CalendarTime

/-! # Week dates

What `strftime` prints for `%G`, `%V` and `%u`. The weeks are counted in `unsigned`. -/
namespace Strftime

open Gregorian CalendarTime

def is_leap (y : ℤ) : Bool :=
  let y := (if INT_MAX - 1900 < y then y - 2000 else y) + 1900
  y.tmod 4 = 0 ∧ (y.tmod 100 ≠ 0 ∨ y.tmod 400 = 0)

variable (tm : Tm)

def week_num : ℤ :=
  let yday := tm.tm_yday.toInt
  let wday := tm.tm_wday.toInt
  let val := (yday + 7 - (wday + 6) % 2 ^ 32 % 7) % 2 ^ 32 / 7
  let val := if (wday + 371 - yday - 2) % 2 ^ 32 % 7 ≤ 2 then val + 1 else val
  if val = 0 then
    let dec31 := (wday + 7 - yday - 1) % 2 ^ 32 % 7
    if dec31 = 4 ∨ dec31 = 5 ∧ is_leap (tm.tm_year.toInt.tmod 400 - 1) then 53 else 52
  else if val = 53 then
    let jan1 := (wday + 371 - yday) % 2 ^ 32 % 7
    if jan1 ≠ 4 ∧ (jan1 ≠ 3 ∨ ¬ is_leap tm.tm_year.toInt) then 1 else val
  else val

def fmt_G : ℤ :=
  if tm.tm_yday.toInt < 3 ∧ week_num tm ≠ 1 then tm.year - 1
  else if 360 < tm.tm_yday.toInt ∧ week_num tm = 1 then tm.year + 1
  else tm.year

def fmt_u : ℤ := if tm.tm_wday.toInt ≠ 0 then tm.tm_wday.toInt else 7

/-- The Thursday of the week is in the year and number `week` of its Thursdays (day 0 is one). -/
structure IsoWeek (day year week weekday : ℤ) : Prop where
  monday : weekday = (day + 3) % 7 + 1
  inYear : yearStart year ≤ day + 4 - weekday ∧ day + 4 - weekday < yearStart (year + 1)
  count : week = (day + 4 - weekday - yearStart year) / 7 + 1

theorem is_leap_iff (h : (y + 1900) % 400 = x % 400) : is_leap y = true ↔ Leap x := by
  have hzero : ∀ y d : ℤ, y.tmod d = 0 ↔ y % d = 0 := fun y d =>
    Int.dvd_iff_tmod_eq_zero.symm.trans Int.dvd_iff_emod_eq_zero
  rw [is_leap, decide_eq_true_eq, Leap, hzero, hzero, ne_eq, hzero]
  split <;> omega

variable {tm} {t start length before th : ℤ}

theorem week_num_eq (hlo : 0 ≤ tm.tm_yday.toInt) (hhi : tm.tm_yday.toInt < length)
    (hwday : tm.tm_wday.toInt = (start + tm.tm_yday.toInt + 4) % 7)
    (hth : th = start + tm.tm_yday.toInt + 3 - (start + tm.tm_yday.toInt + 3) % 7)
    (hlength : length = if is_leap tm.tm_year.toInt then 366 else 365)
    (hbefore : before = if is_leap (tm.tm_year.toInt.tmod 400 - 1) then 366 else 365) :
    week_num tm = if th < start then (th - (start - before)) / 7 + 1
      else if start + length ≤ th then 1 else (th - start) / 7 + 1 := by
  rw [week_num]
  generalize tm.tm_yday.toInt = yday at *
  generalize tm.tm_wday.toInt = wday at *
  generalize is_leap tm.tm_year.toInt = this at *
  generalize is_leap (tm.tm_year.toInt.tmod 400 - 1) = last at *
  have hshort : length ≤ 366 := by
    split at hlength <;> omega
  have hmod : ∀ x : ℤ, 0 ≤ x → x < 2 ^ 32 → x % 2 ^ 32 = x := fun x => Int.emod_eq_of_lt
  rw [hmod (wday + 6) (by omega) (by omega), hmod (yday + 7 - _) (by omega) (by omega),
    hmod (wday + 371 - yday - 2) (by omega) (by omega),
    hmod (wday + 371 - yday) (by omega) (by omega)]
  have hval : (yday + 7 - (wday + 6) % 7) / 7 = (th - start + 4) / 7 := by omega
  have htuesday : (wday + 371 - yday - 2) % 7 = (start + 2) % 7 := by omega
  have hjan1 : (wday + 371 - yday) % 7 = (start + 4) % 7 := by omega
  have hdec31 : th < start → (wday + 7 - yday - 1) % 2 ^ 32 % 7 = (start + 3) % 7 := by
    intro hlt
    rw [hmod _ (by omega) (by omega)]
    omega
  have hmultiple : th % 7 = 0 := by omega
  have hcount : (if (start + 2) % 7 ≤ 2 then (th - start + 4) / 7 + 1 else (th - start + 4) / 7) =
      (th - start) / 7 + 1 := by split <;> omega
  rw [hval, htuesday, hjan1, hcount]
  clear hmod hval htuesday hjan1 hwday hcount
  by_cases hprev : th < start
  · rw [if_pos (by omega), if_pos hprev, hdec31 hprev]
    cases last <;> simp at hbefore ⊢ <;> split <;> omega
  rw [if_neg (by omega), if_neg hprev]
  by_cases hnext : start + length ≤ th
  · rw [if_pos (by omega), if_pos hnext, if_pos]
    cases this <;> simp at hlength ⊢ <;> omega
  · rw [if_neg hnext, ite_eq_right_iff]
    intro hlong
    rw [if_neg]
    cases this <;> simp at hlength ⊢ <;> omega

theorem isoWeek_of_brokenDown (h : BrokenDown t tm) :
    IsoWeek tm.day (fmt_G tm) (week_num tm) (fmt_u tm) := by
  obtain ⟨hmon, hmday, -, -, -, -, hyday, hwday⟩ := h
  have hthis : is_leap tm.tm_year.toInt = true ↔ Leap tm.year :=
    is_leap_iff (by rw [Tm.year]; omega)
  have hlast : is_leap (tm.tm_year.toInt.tmod 400 - 1) = true ↔ Leap (tm.year - 1) := by
    have hsum := Int.tmod_add_mul_tdiv tm.tm_year.toInt 400
    exact is_leap_iff (by rw [Tm.year]; omega)
  have hmonth : tm.month < 12 := by
    rw [Tm.month]
    omega
  have hstart := (monthStart_bounds tm.year hmonth).1
  have hlength := month_le_year tm.year hmonth
  have hday : tm.day = yearStart tm.year + tm.tm_yday.toInt := by
    rw [Tm.day, dayNumber]
    omega
  have hu : fmt_u tm = (tm.day + 3) % 7 + 1 := by
    rw [fmt_u]
    split <;> omega
  have hprev := yearStart_succ (tm.year - 1)
  have hnext := yearStart_succ tm.year
  have hafter := yearStart_succ (tm.year + 1)
  rw [Int.sub_add_cancel] at hprev
  have hlengths : ∀ y, 365 ≤ yearLength y ∧ yearLength y ≤ 366 := by
    intro y
    rw [yearLength]
    split <;> decide
  have hlast' := hlengths (tm.year - 1)
  have hthis' := hlengths tm.year
  have hnext' := hlengths (tm.year + 1)
  have hweek := week_num_eq (by omega) (by omega) (by rw [hwday, hday])
    (show tm.day + 4 - fmt_u tm = _ by omega)
    (show yearLength tm.year = _ from if_congr hthis.symm rfl rfl)
    (show yearLength (tm.year - 1) = _ from if_congr hlast.symm rfl rfl)
  rw [fmt_G]
  split at hweek
  · rw [if_pos ⟨by omega, by omega⟩]
    refine ⟨hu, ?_, by omega⟩
    rw [Int.sub_add_cancel]
    omega
  split at hweek
  · rw [if_neg (by omega), if_pos ⟨by omega, hweek⟩]
    exact ⟨hu, by omega, by omega⟩
  · rw [if_neg (by omega), if_neg (by omega)]
    exact ⟨hu, by omega, hweek⟩

theorem iso_week_date {t : ℤ} {tm₀ tm : Tm} (h : secs_to_tm t tm₀ = some (0, tm)) :
    IsoWeek (t / 86400) (fmt_G tm) (week_num tm) (fmt_u tm) := by
  obtain ⟨-, -, hhour, hmin, hsec, htime, -, -⟩ := secs_to_tm_brokenDown h
  rw [show t / 86400 = tm.day by omega]
  exact isoWeek_of_brokenDown (secs_to_tm_brokenDown h)

/-- 1 January 2021 -/
theorem iso_week_date_2021 : ∃ tm,
    secs_to_tm 1609459200 ⟨0, 0, 0, 0, 0, 0, 0, 0, 0, 0, []⟩ = some (0, tm) ∧ fmt_G tm = 2020 ∧
      IsoWeek (1609459200 / 86400) (fmt_G tm) (week_num tm) (fmt_u tm) :=
  ⟨_, rfl, by decide, iso_week_date rfl⟩

end Strftime
