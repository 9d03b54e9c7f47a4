import GcompatMusl.Gregorian
import Mathlib.Data.List.Basic

/-! # Broken-down time

`__secs_to_tm` and `__tm_to_secs`. A `long long` is an integer that stays in its range here, an
`int` field of the structure has 32 bits, and `int32` is a conversion to `int`. -/
namespace CalendarTime

open Gregorian List Option Int

structure Tm where
  tm_sec : Int32
  tm_min : Int32
  tm_hour : Int32
  tm_mday : Int32
  tm_mon : Int32
  tm_year : Int32
  tm_wday : Int32
  tm_yday : Int32
  tm_isdst : Int32
  tm_gmtoff : ℤ
  tm_zone : List UInt8
  deriving DecidableEq

def INT_MIN : ℤ := -2 ^ 31

def INT_MAX : ℤ := 2 ^ 31 - 1

def int32 (x : ℤ) : ℤ := (x + 2 ^ 31) % 2 ^ 32 - 2 ^ 31

def LEAPOCH : ℤ := 946684800 + 86400 * (31 + 29)

def DAYS_PER_400Y : ℤ := 365 * 400 + 97

def DAYS_PER_100Y : ℤ := 365 * 100 + 24

def DAYS_PER_4Y : ℤ := 365 * 4 + 1

structure Cycles where
  qc_cycles : ℤ
  c_cycles : ℤ
  q_cycles : ℤ
  remyears : ℤ
  remdays : ℤ

def cyclesOf (days : ℤ) : Cycles :=
  let qc := int32 (days.tdiv DAYS_PER_400Y)
  let rem := int32 (days.tmod DAYS_PER_400Y)
  let qc_cycles := if rem < 0 then qc - 1 else qc
  let remdays := if rem < 0 then rem + DAYS_PER_400Y else rem
  let c := remdays.tdiv DAYS_PER_100Y
  let c_cycles := if c = 4 then c - 1 else c
  let remdays := remdays - c_cycles * DAYS_PER_100Y
  let q := remdays.tdiv DAYS_PER_4Y
  let q_cycles := if q = 25 then q - 1 else q
  let remdays := remdays - q_cycles * DAYS_PER_4Y
  let r := remdays.tdiv 365
  let remyears := if r = 4 then r - 1 else r
  ⟨qc_cycles, c_cycles, q_cycles, remyears, remdays - remyears * 365⟩

def days_in_month : List ℤ := [31, 30, 31, 30, 31, 31, 30, 31, 30, 31, 31, 29]

/-- The loop over the months from the table on, `none` if it leaves the table. -/
def monthLoop : List ℤ → ℤ → ℤ → Option (ℤ × ℤ)
  | [], _, _ => none
  | length :: rest, months, remdays =>
    if length ≤ remdays then monthLoop rest (months + 1) (remdays - length)
    else some (months, remdays)

def fillTm (days remsecs years months remdays yday : ℤ) (tm : Tm) : ℤ × Tm :=
  let wday := (3 + days).tmod 7
  let months' := if 10 ≤ months then months - 12 else months
  let years' := if 10 ≤ months then years + 1 else years
  if INT_MAX < years' + 100 ∨ years' + 100 < INT_MIN then (-1, tm)
  else (0, { tm with
    tm_year := Int32.ofInt (years' + 100)
    tm_mon := Int32.ofInt (months' + 2)
    tm_mday := Int32.ofInt (remdays + 1)
    tm_wday := Int32.ofInt (if wday < 0 then wday + 7 else wday)
    tm_yday := Int32.ofInt yday
    tm_hour := Int32.ofInt (remsecs.tdiv 3600)
    tm_min := Int32.ofInt ((remsecs.tdiv 60).tmod 60)
    tm_sec := Int32.ofInt (remsecs.tmod 60) })

def Cycles.leap (c : Cycles) : ℤ :=
  if c.remyears = 0 ∧ (c.q_cycles ≠ 0 ∨ c.c_cycles = 0) then 1 else 0

def Cycles.yday (c : Cycles) : ℤ :=
  let yday := c.remdays + 31 + 28 + c.leap
  if 365 + c.leap ≤ yday then yday - (365 + c.leap) else yday

def Cycles.years (c : Cycles) : ℤ :=
  c.remyears + 4 * c.q_cycles + 100 * c.c_cycles + 400 * c.qc_cycles

def daysOf (t : ℤ) : ℤ × ℤ :=
  let secs := t - LEAPOCH
  let remsecs := int32 (secs.tmod 86400)
  if remsecs < 0 then (secs.tdiv 86400 - 1, remsecs + 86400) else (secs.tdiv 86400, remsecs)

def secs_to_tm (t : ℤ) (tm : Tm) : Option (ℤ × Tm) :=
  if t < INT_MIN * 31622400 ∨ INT_MAX * 31622400 < t then some (-1, tm)
  else
    let days := (daysOf t).1
    let c := cyclesOf days
    (monthLoop days_in_month 0 c.remdays).map fun m =>
      fillTm days (daysOf t).2 c.years m.1 m.2 c.yday tm

/-- The path of 1902 to 2038, on `int` -/
def yearFast (year : ℤ) : ℤ × Bool :=
  let y := int32 year
  let leaps := (y - 68) >>> (2 : ℕ)
  -- `(y-68)&3` are the two lowest bits
  if (y - 68) % 4 = 0 then (31536000 * (y - 70) + 86400 * (leaps - 1), true)
  else (31536000 * (y - 70) + 86400 * leaps, false)

/-- The year of a 400-year cycle: the centuries, the leap years of the last one and whether it is a
leap year -/
def yearOfCycle (rem : ℤ) : ℤ × ℤ × Bool :=
  if rem = 0 then (0, 0, true)
  else
    let centuries := if 200 ≤ rem then if 300 ≤ rem then 3 else 2 else if 100 ≤ rem then 1 else 0
    let rem := rem - 100 * centuries
    if rem = 0 then (centuries, 0, false) else (centuries, rem / 4, rem % 4 = 0)

def yearGeneral (year : ℤ) : ℤ × Bool :=
  let cycles := int32 ((year - 100).tdiv 400)
  let rem := int32 ((year - 100).tmod 400)
  let c := if rem < 0 then cycles - 1 else cycles
  let y := yearOfCycle (if rem < 0 then rem + 400 else rem)
  let leaps := y.2.1 + (97 * c + 24 * y.1 - if y.2.2 then 1 else 0)
  ((year - 100) * 31536000 + leaps * 86400 + 946684800 + 86400, y.2.2)

def year_to_secs (year : ℤ) : ℤ × Bool :=
  if (year - 2) % 2 ^ 64 ≤ 136 then yearFast year else yearGeneral year

def secs_through_month : List ℤ :=
  [0, 31 * 86400, 59 * 86400, 90 * 86400, 120 * 86400, 151 * 86400, 181 * 86400, 212 * 86400,
    243 * 86400, 273 * 86400, 304 * 86400, 334 * 86400]

def month_to_secs (month : ℤ) (is_leap : Bool) : ℤ :=
  let t := secs_through_month.getD month.toNat 0
  if is_leap = true ∧ 2 ≤ month then t + 86400 else t

def normalMonth (month : ℤ) : ℤ × ℤ :=
  if 12 ≤ month ∨ month < 0 then
    if month.tmod 12 < 0 then (month.tmod 12 + 12, month.tdiv 12 - 1)
    else (month.tmod 12, month.tdiv 12)
  else (month, 0)

/-- The subtraction from `tm_mday` is one of `int`. -/
def tm_to_secs (tm : Tm) : ℤ :=
  let m := normalMonth tm.tm_mon.toInt
  let y := year_to_secs (tm.tm_year.toInt + m.2)
  y.1 + month_to_secs m.1 y.2 + 86400 * (tm.tm_mday - 1).toInt + 3600 * tm.tm_hour.toInt +
    60 * tm.tm_min.toInt + tm.tm_sec.toInt

variable {x days rest t : ℤ} {tm tm' : Tm}

theorem int32_eq (hlo : -2 ^ 31 ≤ x) (hhi : x < 2 ^ 31) : int32 x = x := by
  rw [int32]
  omega

/-- A quotient and a remainder that round towards zero, corrected where the remainder is
negative. -/
theorem floored (hd : 0 < d) (x : ℤ) :
    (if x.tmod d < 0 then x.tdiv d - 1 else x.tdiv d) = x / d ∧
      (if x.tmod d < 0 then x.tmod d + d else x.tmod d) = x % d := by
  have hsum := tmod_add_mul_tdiv x d
  have hlt := tmod_lt_of_pos x hd
  have hgt := lt_tmod_of_pos x hd
  split
  · have hback : x.tmod d + d + d * (x.tdiv d - 1) = x := by
      rw [mul_sub]
      omega
    have hunique := (Int.ediv_emod_unique hd).mpr ⟨hback, by omega, by omega⟩
    exact ⟨hunique.1.symm, hunique.2.symm⟩
  · have hunique := (Int.ediv_emod_unique hd).mpr ⟨hsum, by omega, hlt⟩
    exact ⟨hunique.1.symm, hunique.2.symm⟩

def yearSecs (year : ℤ) : ℤ := 86400 * yearStart (1900 + year)

theorem yearFast_eq (hlo : 2 ≤ year) (hhi : year ≤ 138) :
    yearFast year = (yearSecs year, decide (Leap (1900 + year))) := by
  have hint : int32 year = year := int32_eq (by omega) (by omega)
  have hshift : (year - 68) >>> (2 : ℕ) = (year - 68) / 4 := by
    rw [shiftRight_eq_div_pow]
    rfl
  rw [yearFast, hint, yearSecs, yearStart_eq, leaps]
  split
  · have hleap : Leap (1900 + year) := by
      rw [Leap]
      omega
    rw [decide_eq_true hleap, Prod.mk.injEq]
    refine ⟨?_, rfl⟩
    omega
  · have hleap : ¬ Leap (1900 + year) := by
      rw [Leap]
      omega
    rw [decide_eq_false hleap, Prod.mk.injEq]
    refine ⟨?_, rfl⟩
    omega

theorem yearOfCycle_spec (hlo : 0 ≤ rem) (hhi : rem < 400) :
    (yearOfCycle rem).2.1 + (24 * (yearOfCycle rem).1 -
      if (yearOfCycle rem).2.2 then 1 else 0) + 1 =
        leaps (2000 + rem) - 484 ∧
      (yearOfCycle rem).2.2 = decide (Leap (2000 + rem)) := by
  rw [yearOfCycle, leaps]
  split
  · rename_i hzero
    rw [hzero]
    decide
  dsimp only
  generalize hcent : (if 200 ≤ rem then if 300 ≤ rem then 3 else 2
    else if 100 ≤ rem then 1 else 0 : ℤ) = centuries
  split
  · have hleap : ¬ Leap (2000 + rem) := by
      rw [Leap]
      omega
    rw [decide_eq_false hleap]
    refine ⟨?_, rfl⟩
    change 0 + (24 * centuries - 0) + 1 = _
    omega
  · have hleap : (rem - 100 * centuries) % 4 = 0 ↔ Leap (2000 + rem) := by
      rw [Leap]
      omega
    refine ⟨?_, decide_eq_decide.mpr hleap⟩
    change (rem - 100 * centuries) / 4 +
      (24 * centuries - if decide ((rem - 100 * centuries) % 4 = 0) = true then 1 else 0) + 1 = _
    split <;>
      rename_i hmod <;>
      rw [decide_eq_true_eq] at hmod <;>
      omega

theorem yearGeneral_eq (hlo : -2 ^ 39 ≤ year) (hhi : year < 2 ^ 39) :
    yearGeneral year = (yearSecs year, decide (Leap (1900 + year))) := by
  obtain ⟨hdiv, hmod⟩ := floored (show (0 : ℤ) < 400 by decide) (year - 100)
  have hcycles : int32 ((year - 100).tdiv 400) = (year - 100).tdiv 400 :=
    int32_eq (by omega) (by omega)
  have hrem : int32 ((year - 100).tmod 400) = (year - 100).tmod 400 :=
    int32_eq (by omega) (by omega)
  obtain ⟨hleaps, hleap⟩ := yearOfCycle_spec (show 0 ≤ (year - 100) % 400 by omega) (by omega)
  have hsame : Leap (2000 + (year - 100) % 400) ↔ Leap (1900 + year) := by
    rw [Leap, Leap]
    omega
  have hcount : leaps (1900 + year) =
      leaps (2000 + (year - 100) % 400) + 97 * ((year - 100) / 400) := by
    rw [leaps, leaps]
    omega
  rw [yearGeneral, hcycles, hrem, hmod, Prod.mk.injEq]
  refine ⟨?_, hleap.trans (decide_eq_decide.mpr hsame)⟩
  rw [yearSecs, yearStart_eq]
  omega

theorem year_to_secs_eq (hlo : -2 ^ 39 ≤ year) (hhi : year < 2 ^ 39) :
    year_to_secs year = (yearSecs year, decide (Leap (1900 + year))) := by
  rw [year_to_secs]
  split
  · rename_i hfast
    replace hfast : 2 ≤ year ∧ year ≤ 138 := by omega
    exact yearFast_eq hfast.1 hfast.2
  · exact yearGeneral_eq hlo hhi

theorem month_to_secs_eq (y : ℤ) {m : ℕ} (hm : m < 12) :
    month_to_secs m (decide (Leap y)) = 86400 * monthStart y m := by
  have htable : secs_through_month.getD m 0 =
      86400 * [0, 31, 59, 90, 120, 151, 181, 212, 243, 273, 304, 334].getD m 0 := by
    interval_cases m <;> decide
  rw [month_to_secs, monthStart_eq y hm, toNat_natCast]
  by_cases hy : Leap y ∧ 2 ≤ m
  · rw [if_pos hy, if_pos ⟨decide_eq_true hy.1, by omega⟩]
    omega
  · have hnot : ¬ (decide (Leap y) = true ∧ (2 : ℤ) ≤ m) := by
      rintro ⟨hleap, hm'⟩
      exact hy ⟨of_decide_eq_true hleap, by omega⟩
    rw [if_neg hy, if_neg hnot]
    omega

theorem normalMonth_eq (month : ℤ) : normalMonth month = (month % 12, month / 12) := by
  obtain ⟨hdiv, hmod⟩ := floored (show (0 : ℤ) < 12 by decide) month
  rw [normalMonth]
  split
  · rw [← hdiv, ← hmod]
    split <;> rfl
  · rw [Prod.mk.injEq]
    omega

/-- The seconds to the date that has the month normalised and everything else added -/
def Tm.seconds (tm : Tm) : ℤ :=
  let y := 1900 + tm.tm_year.toInt + tm.tm_mon.toInt / 12
  86400 * dayNumber y (tm.tm_mon.toInt % 12).toNat tm.tm_mday.toInt + 3600 * tm.tm_hour.toInt +
    60 * tm.tm_min.toInt + tm.tm_sec.toInt

theorem tm_to_secs_eq (tm : Tm) : tm_to_secs tm =
    tm.seconds + 86400 * ((tm.tm_mday - 1).toInt - (tm.tm_mday.toInt - 1)) := by
  have hylo := tm.tm_year.le_toInt
  have hyhi := tm.tm_year.toInt_lt
  have hmlo := tm.tm_mon.le_toInt
  have hmhi := tm.tm_mon.toInt_lt
  have hm : ((tm.tm_mon.toInt % 12).toNat : ℤ) = tm.tm_mon.toInt % 12 :=
    toNat_of_nonneg (by omega)
  have hyear : year_to_secs (tm.tm_year.toInt + tm.tm_mon.toInt / 12) = _ :=
    year_to_secs_eq (by omega) (by omega)
  rw [tm_to_secs, normalMonth_eq]
  rw [hyear]
  rw [← hm, month_to_secs_eq _ (by omega), Tm.seconds, dayNumber, yearSecs, add_assoc 1900]
  omega

theorem mday_sub_iff (d : Int32) : (d - 1).toInt = d.toInt - 1 ↔ d ≠ Int32.minValue := by
  have hlo := d.le_toInt
  have hhi := d.toInt_lt
  rw [Int32.toInt_sub, Int32.toInt_one, ← Int32.toInt_inj.ne, Int32.toInt_minValue]
  constructor
  · intro h heq
    rw [heq] at h
    exact absurd h (by decide)
  · intro hne
    exact bmod_eq_of_le (by omega) (by omega)

structure Covers (days : ℤ) (c : Cycles) : Prop where
  sum : days = 146097 * c.qc_cycles + 36524 * c.c_cycles + 1461 * c.q_cycles + 365 * c.remyears +
    c.remdays
  century : 0 ≤ c.c_cycles ∧ c.c_cycles ≤ 3
  four : 0 ≤ c.q_cycles ∧ c.q_cycles ≤ 24
  year : 0 ≤ c.remyears ∧ c.remyears ≤ 3
  day : 0 ≤ c.remdays ∧ c.remdays ≤ 365
  last : c.remdays = 365 → c.remyears = 3 ∧ (c.q_cycles < 24 ∨ c.c_cycles = 3)

theorem cyclesOf_covers (hlo : -2 ^ 47 ≤ days) (hhi : days < 2 ^ 47) :
    Covers days (cyclesOf days) := by
  obtain ⟨hdiv, hmod⟩ := floored (show (0 : ℤ) < 146097 by decide) days
  have hqc : int32 (days.tdiv 146097) = days.tdiv 146097 := int32_eq (by omega) (by omega)
  have hrem : int32 (days.tmod 146097) = days.tmod 146097 := int32_eq (by omega) (by omega)
  have hc : (days % 146097).tdiv 36524 = days % 146097 / 36524 :=
    tdiv_eq_ediv_of_nonneg (by omega)
  rw [cyclesOf, DAYS_PER_400Y, DAYS_PER_100Y, DAYS_PER_4Y]
  norm_num only
  rw [hqc, hrem, hdiv, hmod, hc]
  generalize hcdef : (if days % 146097 / 36524 = 4 then days % 146097 / 36524 - 1
    else days % 146097 / 36524) = c
  generalize hrem2 : days % 146097 - c * 36524 = rem2
  have hcentury : 0 ≤ c ∧ c ≤ 3 ∧ 0 ≤ rem2 ∧ (rem2 < 36524 ∨ rem2 = 36524 ∧ c = 3) := by
    split at hcdef <;> omega
  rw [tdiv_eq_ediv_of_nonneg hcentury.2.2.1]
  generalize hqdef : (if rem2 / 1461 = 25 then rem2 / 1461 - 1 else rem2 / 1461) = q
  generalize hrem3 : rem2 - q * 1461 = rem3
  have hfour : 0 ≤ q ∧ q ≤ 24 ∧ 0 ≤ rem3 ∧
      (rem3 < 1460 ∨ rem3 = 1460 ∧ (q < 24 ∨ c = 3)) := by
    split at hqdef <;> omega
  rw [tdiv_eq_ediv_of_nonneg hfour.2.2.1]
  generalize hrdef : (if rem3 / 365 = 4 then rem3 / 365 - 1 else rem3 / 365) = r
  have hyear : 0 ≤ r ∧ r ≤ 3 ∧ 0 ≤ rem3 - r * 365 ∧
      (rem3 - r * 365 < 365 ∨ rem3 - r * 365 = 365 ∧ r = 3 ∧ (q < 24 ∨ c = 3)) := by
    split at hrdef <;> omega
  refine ⟨?_, ⟨hcentury.1, hcentury.2.1⟩, ⟨hfour.1, hfour.2.1⟩, ⟨hyear.1, hyear.2.1⟩, ?_, ?_⟩
  · change days = 146097 * (days / 146097) + 36524 * c + 1461 * q + 365 * r + (rem3 - r * 365)
    omega
  · change 0 ≤ rem3 - r * 365 ∧ rem3 - r * 365 ≤ 365
    omega
  · change rem3 - r * 365 = 365 → r = 3 ∧ (q < 24 ∨ c = 3)
    omega

theorem Covers.leap (h : Covers days c) : c.leap = if Leap (2000 + c.years) then 1 else 0 := by
  obtain ⟨-, hc, hq, hr, -, -⟩ := h
  refine if_congr ?_ rfl rfl
  rw [Leap, Cycles.years]
  omega

theorem Covers.march (h : Covers days c) :
    days + 11017 = yearStart (2000 + c.years) + 59 + c.leap + c.remdays := by
  obtain ⟨hsum, hc, hq, hr, -, -⟩ := h
  have hleaps : leaps (2000 + c.years) =
      485 + 97 * c.qc_cycles + 24 * c.c_cycles + c.q_cycles - c.leap := by
    rw [leaps, Cycles.leap, Cycles.years]
    split <;> omega
  rw [yearStart_eq, hleaps, Cycles.years]
  omega

theorem Covers.next_leap (h : Covers days c) (hlast : c.remdays = 365) :
    Leap (2001 + c.years) := by
  obtain ⟨-, hc, hq, hr, -, hl⟩ := h
  rw [Leap, Cycles.years]
  omega

theorem monthLoop_spec (table : List ℤ) : ∀ (months : ℤ) {remdays : ℤ}, 0 ≤ remdays →
    remdays < table.sum → ∃ k rest, k < table.length ∧
      monthLoop table months remdays = some (months + (k : ℕ), rest) ∧
      remdays = (table.take k).sum + rest ∧ 0 ≤ rest ∧ rest < table.getD k 0 := by
  induction table with
  | nil =>
    intro months remdays hlo hhi
    rw [sum_nil] at hhi
    omega
  | cons length table ih =>
    intro months remdays hlo hhi
    rw [sum_cons] at hhi
    rw [monthLoop]
    split
    · obtain ⟨k, rest, hk, hloop, hsum, hrest⟩ := ih (months + 1)
        (show 0 ≤ remdays - length by omega) (by omega)
      refine ⟨k + 1, rest, Nat.succ_lt_succ hk, ?_, ?_, hrest⟩
      · rw [hloop, Nat.cast_succ, add_assoc, add_comm 1]
      · rw [take_succ_cons, sum_cons]
        omega
    · refine ⟨0, remdays, Nat.succ_pos _, ?_, ?_, hlo, ?_⟩
      · rw [Nat.cast_zero, add_zero]
      · rw [take_zero, sum_nil]
        omega
      · change remdays < length
        omega

def Tm.year (tm : Tm) : ℤ := 1900 + tm.tm_year.toInt

def Tm.month (tm : Tm) : ℕ := tm.tm_mon.toInt.toNat

def Tm.day (tm : Tm) : ℤ := dayNumber tm.year tm.month tm.tm_mday.toInt

/-- The structure holds the calendar date and the time of day of the time `t`. Day 0 is a
Thursday. -/
structure BrokenDown (t : ℤ) (tm : Tm) : Prop where
  mon : 0 ≤ tm.tm_mon.toInt ∧ tm.tm_mon.toInt < 12
  mday : 1 ≤ tm.tm_mday.toInt ∧ tm.tm_mday.toInt ≤ monthLength tm.year tm.month
  hour : 0 ≤ tm.tm_hour.toInt ∧ tm.tm_hour.toInt < 24
  min : 0 ≤ tm.tm_min.toInt ∧ tm.tm_min.toInt < 60
  sec : 0 ≤ tm.tm_sec.toInt ∧ tm.tm_sec.toInt < 60
  time : t = 86400 * tm.day + 3600 * tm.tm_hour.toInt + 60 * tm.tm_min.toInt + tm.tm_sec.toInt
  yday : tm.tm_yday.toInt = monthStart tm.year tm.month + (tm.tm_mday.toInt - 1)
  wday : tm.tm_wday.toInt = (tm.day + 4) % 7

/-- The day `rest` of month `month`, counted from 0, is the last one that the cycles cover. -/
structure MarchDate (days : ℤ) (c : Cycles) (rest year : ℤ) (month : ℕ) : Prop where
  month_lt : month < 12
  day : days + 11017 = dayNumber year month (rest + 1)
  length : rest + 1 ≤ monthLength year month
  yday : c.yday = monthStart year month + rest

theorem Covers.before (h : Covers days c) (hk : k < 10)
    (hsum : c.remdays = (days_in_month.take k).sum + rest) (hhi : rest < days_in_month.getD k 0) :
    MarchDate days c rest (2000 + c.years) (k + 2) := by
  have htable : days_in_month.getD k 0 = monthLength (2000 + c.years) (k + 2) := by
    interval_cases k <;> rfl
  have hbefore : (days_in_month.take k).sum + days_in_month.getD k 0 ≤ 306 := by
    interval_cases k <;> decide
  have hstart : monthStart (2000 + c.years) (k + 2) = 59 + c.leap + (days_in_month.take k).sum := by
    have htake : [0, 31, 59, 90, 120, 151, 181, 212, 243, 273, 304, 334].getD (k + 2) (0 : ℤ) =
        59 + (days_in_month.take k).sum := by
      interval_cases k <;> decide
    rw [monthStart_eq _ (by omega), h.leap]
    split
    · rename_i hleap
      rw [if_pos hleap.1]
      omega
    · rename_i hleap
      rw [if_neg fun hl => hleap ⟨hl, by omega⟩]
      omega
  refine ⟨by omega, ?_, by omega, ?_⟩
  · have hmarch := h.march
    rw [dayNumber]
    omega
  · rw [Cycles.yday]
    split <;> omega

theorem Covers.after (h : Covers days c) (hk : k < 2)
    (hsum : c.remdays = (days_in_month.take (k + 10)).sum + rest) (hlo : 0 ≤ rest)
    (hhi : rest < days_in_month.getD (k + 10) 0) : MarchDate days c rest (2001 + c.years) k := by
  have hmarch := h.march
  have hnext := yearStart_succ (2000 + c.years)
  have hlength : yearLength (2000 + c.years) = 365 + c.leap := by
    rw [yearLength, h.leap]
    split <;> rfl
  rw [show 2000 + c.years + 1 = 2001 + c.years by omega] at hnext
  have hbefore : (days_in_month.take (k + 10)).sum = 306 + monthStart (2001 + c.years) k := by
    interval_cases k <;> rfl
  have hpos := (monthStart_bounds (2001 + c.years) (show k < 12 by omega)).1
  refine ⟨by omega, ?_, ?_, ?_⟩
  · rw [dayNumber]
    omega
  · have hday := h.day.2
    interval_cases k
    · exact hhi
    · by_cases hlast : c.remdays = 365
      · rw [monthLength, if_pos (h.next_leap hlast)]
        exact hhi
      · have hfeb : c.remdays = 337 + rest := hsum
        rw [monthLength]
        split <;> omega
  · rw [Cycles.yday]
    split <;> omega

theorem daysOf_eq (t : ℤ) : daysOf t = ((t - LEAPOCH) / 86400, (t - LEAPOCH) % 86400) := by
  obtain ⟨hdiv, hmod⟩ := floored (show (0 : ℤ) < 86400 by decide) (t - LEAPOCH)
  rw [daysOf, int32_eq (by omega) (by omega), ← hdiv, ← hmod]
  split <;> rfl

theorem fillTm_brokenDown {remsecs years months year : ℤ} {month : ℕ}
    (hfill : fillTm days remsecs years months rest c.yday tm = (0, tm'))
    (hyear : (if 10 ≤ months then years + 1 else years) = year)
    (hmonth : (if 10 ≤ months then months - 12 else months) + 2 = month)
    (hdate : MarchDate days c rest (2000 + year) month) (hrest : 0 ≤ rest)
    (hsecs : 0 ≤ remsecs ∧ remsecs < 86400) (ht : t = 86400 * (days + 11017) + remsecs) :
    BrokenDown t tm' := by
  obtain ⟨hmlt, hday, hlength, hyday⟩ := hdate
  have hstart := monthStart_bounds (2000 + year) hmlt
  have hshort := monthLength_le (2000 + year) month
  have hhours : remsecs.tdiv 3600 = remsecs / 3600 := tdiv_eq_ediv_of_nonneg hsecs.1
  have hmins : (remsecs.tdiv 60).tmod 60 = remsecs / 60 % 60 := by
    rw [tdiv_eq_ediv_of_nonneg hsecs.1, tmod_eq_emod_of_nonneg (by omega)]
  have hmod : remsecs.tmod 60 = remsecs % 60 := tmod_eq_emod_of_nonneg hsecs.1
  have hwday := (floored (show (0 : ℤ) < 7 by decide) (3 + days)).2
  rw [fillTm, hyear, hmonth, hhours, hmins, hmod, hwday] at hfill
  split at hfill
  · exact absurd (Prod.mk.inj hfill).1 (by decide)
  rename_i hfits
  rw [INT_MAX, INT_MIN] at hfits
  have htm := (Prod.mk.inj hfill).2
  have ⟨hy, hm, hd, hw, hyd, hh, hmi, hs⟩ : tm'.tm_year.toInt = year + 100 ∧
      tm'.tm_mon.toInt = month ∧ tm'.tm_mday.toInt = rest + 1 ∧ tm'.tm_wday.toInt = (3 + days) % 7 ∧
      tm'.tm_yday.toInt = c.yday ∧ tm'.tm_hour.toInt = remsecs / 3600 ∧
      tm'.tm_min.toInt = remsecs / 60 % 60 ∧ tm'.tm_sec.toInt = remsecs % 60 := by
    rw [← htm]
    refine ⟨?_, ?_, ?_, ?_, ?_, ?_, ?_, ?_⟩ <;> exact Int32.toInt_ofInt_of_le (by omega) (by omega)
  have hyear' : tm'.year = 2000 + year := by
    rw [Tm.year]
    omega
  have hmonth' : tm'.month = month := by
    rw [Tm.month, hm, toNat_natCast]
  have hday' : tm'.day = days + 11017 := by
    rw [Tm.day, hyear', hmonth', hd, hday]
  rw [← hyear', ← hmonth'] at hlength hyday
  refine ⟨by omega, by omega, by omega, by omega, by omega, ?_, by omega, ?_⟩ <;> omega

theorem days_bounds (h : ¬ (t < INT_MIN * 31622400 ∨ INT_MAX * 31622400 < t)) :
    -2 ^ 47 ≤ (t - LEAPOCH) / 86400 ∧ (t - LEAPOCH) / 86400 < 2 ^ 47 := by
  rw [INT_MIN, INT_MAX] at h
  rw [LEAPOCH]
  omega

theorem days_in_month_sum : days_in_month.sum = 366 := by decide

theorem secs_to_tm_ne_none (t : ℤ) (tm : Tm) : secs_to_tm t tm ≠ none := by
  rw [secs_to_tm, daysOf_eq]
  split
  · exact some_ne_none _
  rename_i hrange
  have hcovers := cyclesOf_covers (days_bounds hrange).1 (days_bounds hrange).2
  have hday := hcovers.day
  obtain ⟨k, rest, -, hloop, -⟩ := monthLoop_spec days_in_month 0 hday.1
    (by rw [days_in_month_sum]; omega)
  dsimp only
  rw [hloop]
  exact some_ne_none _

theorem secs_to_tm_brokenDown (h : secs_to_tm t tm = some (0, tm')) : BrokenDown t tm' := by
  rw [secs_to_tm, daysOf_eq] at h
  split at h
  · exact absurd (Prod.mk.inj (some.inj h)).1 (by decide)
  rename_i hrange
  have hcovers := cyclesOf_covers (days_bounds hrange).1 (days_bounds hrange).2
  have hday := hcovers.day
  obtain ⟨k, rest, hk, hloop, hsum, hlo, hhi⟩ := monthLoop_spec days_in_month 0 hday.1
    (by rw [days_in_month_sum]; omega)
  have hk' : k < 12 := hk
  dsimp only at h
  rw [hloop, zero_add] at h
  have hfill := some.inj h
  have ht : t = 86400 * ((t - LEAPOCH) / 86400 + 11017) + (t - LEAPOCH) % 86400 := by
    rw [LEAPOCH]
    omega
  by_cases hnew : k < 10
  · exact fillTm_brokenDown hfill (if_neg (by omega)) (by rw [if_neg (by omega)]; rfl)
      (hcovers.before hnew hsum hhi) hlo (by omega) ht
  · obtain ⟨j, rfl⟩ := Nat.exists_eq_add_of_le' (show 10 ≤ k by omega)
    have hdate := hcovers.after (by omega) hsum hlo hhi
    rw [show 2001 + (cyclesOf ((t - LEAPOCH) / 86400)).years =
      2000 + ((cyclesOf ((t - LEAPOCH) / 86400)).years + 1) by omega] at hdate
    exact fillTm_brokenDown hfill (if_pos (by omega)) (by rw [if_pos (by omega)]; omega) hdate hlo
      (by omega) ht

theorem BrokenDown.seconds (h : BrokenDown t tm) : tm.seconds = t := by
  have hmon := h.mon
  rw [Tm.seconds, ediv_eq_zero_of_lt hmon.1 hmon.2, emod_eq_of_lt hmon.1 hmon.2, add_zero]
  exact h.time.symm

theorem tm_to_secs_iff (tm : Tm) : tm_to_secs tm = tm.seconds ↔ tm.tm_mday ≠ Int32.minValue := by
  rw [← mday_sub_iff, tm_to_secs_eq]
  omega

theorem BrokenDown.tm_to_secs (h : BrokenDown t tm) : tm_to_secs tm = t := by
  have hmday := h.mday
  rw [(tm_to_secs_iff tm).mpr, h.seconds]
  intro heq
  rw [heq, Int32.toInt_minValue] at hmday
  omega

/-- Both directions follow the calendar, but for a day of the month that has no predecessor. -/
theorem calendar_exact_iff (t : ℤ) (tm₀ tm : Tm) :
    secs_to_tm t tm₀ ≠ none ∧
      (∀ tm', secs_to_tm t tm₀ = some (0, tm') → BrokenDown t tm' ∧ tm_to_secs tm' = t) ∧
      (∀ year, 2 ≤ year → year ≤ 138 → yearFast year = yearGeneral year) ∧
      (tm_to_secs tm = tm.seconds ↔ tm.tm_mday ≠ Int32.minValue) := by
  refine ⟨secs_to_tm_ne_none t tm₀, ?_, ?_, tm_to_secs_iff tm⟩
  · intro tm' h
    have hdown := secs_to_tm_brokenDown h
    exact ⟨hdown, hdown.tm_to_secs⟩
  · intro year hlo hhi
    rw [yearFast_eq hlo hhi, yearGeneral_eq (by omega) (by omega)]

/-- January 1970 with the lowest day of the month: 2 ^ 32 days too late. -/
theorem lowest_mday_wraps :
    let tm : Tm := ⟨0, 0, 0, Int32.minValue, 0, 70, 0, 0, 0, 0, []⟩
    tm_to_secs tm = 86400 * (2 ^ 31 - 1) ∧ tm.seconds = 86400 * (-2 ^ 31 - 1) := by
  decide

end CalendarTime
