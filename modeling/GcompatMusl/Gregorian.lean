import Mathlib.Tactic.IntervalCases

/-! # The proleptic Gregorian calendar

Days are counted from 1 January 1970, by the lengths of the years and months in between. -/
namespace Gregorian

def Leap (y : ℤ) : Prop := y % 4 = 0 ∧ (y % 100 ≠ 0 ∨ y % 400 = 0)

instance (y : ℤ) : Decidable (Leap y) := inferInstanceAs (Decidable (_ ∧ _))

def yearLength (y : ℤ) : ℤ := if Leap y then 366 else 365

def monthLength (y : ℤ) : ℕ → ℤ
  | 1 => if Leap y then 29 else 28
  | 3 | 5 | 8 | 10 => 30
  | _ => 31

def yearsFrom (y : ℤ) : ℕ → ℤ
  | 0 => 0
  | n + 1 => yearsFrom y n + yearLength (y + n)

def yearStart (y : ℤ) : ℤ :=
  if 1970 ≤ y then yearsFrom 1970 (y - 1970).toNat else -yearsFrom y (1970 - y).toNat

def monthStart (y : ℤ) : ℕ → ℤ
  | 0 => 0
  | m + 1 => monthStart y m + monthLength y m

/-- The number of day `d` of month `m`; the days of a month are counted from 1. -/
def dayNumber (y : ℤ) (m : ℕ) (d : ℤ) : ℤ := yearStart y + monthStart y m + (d - 1)

def leaps (y : ℤ) : ℤ := (y - 1) / 4 - (y - 1) / 100 + (y - 1) / 400

variable (y : ℤ)

theorem leaps_succ : leaps (y + 1) = leaps y + if Leap y then 1 else 0 := by
  rw [leaps, leaps]
  split
  all_goals
    rename_i h
    rw [Leap] at h
    omega

theorem yearsFrom_eq (n : ℕ) : yearsFrom y n = 365 * n + leaps (y + n) - leaps y := by
  induction n with
  | zero =>
    rw [yearsFrom, Nat.cast_zero, Int.add_zero]
    omega
  | succ n ih =>
    have hnext := leaps_succ (y + n)
    rw [Int.add_assoc] at hnext
    rw [yearsFrom, yearLength, Nat.cast_succ, hnext]
    split <;> omega

theorem yearStart_eq : yearStart y = 365 * (y - 1970) + leaps y - 477 := by
  have hepoch : leaps 1970 = 477 := by decide
  rw [yearStart]
  split
  · have hn : ((y - 1970).toNat : ℤ) = y - 1970 := Int.toNat_of_nonneg (by omega)
    rw [yearsFrom_eq, hn, hepoch]
    rw [show (1970 : ℤ) + (y - 1970) = y by omega]
  · have hn : ((1970 - y).toNat : ℤ) = 1970 - y := Int.toNat_of_nonneg (by omega)
    rw [yearsFrom_eq, hn, show y + (1970 - y) = 1970 by omega]
    omega

theorem yearStart_succ : yearStart (y + 1) = yearStart y + yearLength y := by
  have hnext := leaps_succ y
  rw [yearStart_eq, yearStart_eq, hnext, yearLength]
  split <;> omega

theorem monthStart_eq (hm : m < 12) : monthStart y m =
    [0, 31, 59, 90, 120, 151, 181, 212, 243, 273, 304, 334].getD m 0 +
      if Leap y ∧ 2 ≤ m then 1 else 0 := by
  by_cases h : Leap y <;> interval_cases m <;> simp [monthStart, monthLength, h]

theorem monthStart_bounds (hm : m < 12) : 0 ≤ monthStart y m ∧ monthStart y m ≤ 335 := by
  have htable : 0 ≤ [0, 31, 59, 90, 120, 151, 181, 212, 243, 273, 304, 334].getD m (0 : ℤ) ∧
      [0, 31, 59, 90, 120, 151, 181, 212, 243, 273, 304, 334].getD m (0 : ℤ) ≤ 334 := by
    interval_cases m <;> decide
  rw [monthStart_eq y hm]
  split <;> omega

theorem month_le_year (hm : m < 12) : monthStart y m + monthLength y m ≤ yearLength y := by
  by_cases h : Leap y <;> interval_cases m <;> simp [monthStart, monthLength, yearLength, h]

theorem monthLength_le (m : ℕ) : monthLength y m ≤ 31 := by
  rw [monthLength.eq_def]
  split
  · split <;> decide
  all_goals decide

end Gregorian
